import LiveAISIP.Library.KeyMap
import LiveAISIP.Library.Run
import LiveAISIP.Sip.Transport.Connection
import LiveAISIP.Transaction.Timer

/-!
# Dial backoff

The bounded table of failed destinations of `sip/transport/model/backoff.rs`.  Each
failure of a destination doubles the delay before its next dial, up to a ceiling; a
success forgets its failures.  A full table forgets the destinations whose delay has
passed before it refuses a new one.

Where the source reserves memory, `granted` tells whether the reservation is granted.
-/

namespace LiveAISIP
namespace Sip
namespace Transport

open Transaction
open Run TimerProfile AList KeyMap

variable {maximum initial : Duration} {times : List Nat} {count : Nat} {retry : Option Duration}
  {destination : Destination}

/-- Hard maximum of suppressed destinations. -/
def maxDialBackoffs : Nat := 65536

/-- Hard maximum of one delay, in whole seconds. -/
def maxDialBackoffSecs : Nat := 300

/-- Dial-backoff policy. -/
structure DialBackoffConfig where
  maximumDestinations : Nat
  initialDelay : Duration
  maximumDelay : Duration

/-- Dial-backoff configuration or state failure. -/
inductive DialBackoffError
  | invalidCapacity
  | invalidDelay
  | capacity
  | timeOverflow
  | allocationFailed

/-- Validate all hard limits. -/
def DialBackoffConfig.validate (config : DialBackoffConfig) :
    Except DialBackoffError Unit := do
  Outcome.ensure
    (config.maximumDestinations ≠ 0 ∧ config.maximumDestinations ≤ maxDialBackoffs)
    .invalidCapacity
  Outcome.ensure
    (config.initialDelay.asNanos ≠ 0 ∧ config.initialDelay.asNanos ≤ config.maximumDelay.asNanos ∧
      config.maximumDelay.asNanos / 10 ^ 9 ≤ maxDialBackoffSecs)
    .invalidDelay

/-- The failures of one destination. -/
structure FailureState where
  failures : Nat
  retryAt : Duration

/-- Dial admission decision for one destination. -/
inductive DialPermission
  | allowed
  | backingOff (remaining : Nat)

/-- The destination failure table. -/
structure DialBackoff where
  config : DialBackoffConfig
  failures : KeyMap Destination FailureState

variable {backoff : DialBackoff}

/-- Double a delay so many times, or until it is the maximum. -/
def doubleUntil (maximum : Duration) : Nat → Duration → Duration
  | 0, delay => delay
  | times + 1, delay =>
    let delay := doubledUpTo maximum delay
    if delay = maximum then delay else doubleUntil maximum times delay

/-- The delay after so many failures. -/
def exponentialDelay (initial maximum : Duration) (failures : Nat) : Duration :=
  doubleUntil maximum (min failures 64 - 1) initial

namespace DialBackoff

/-- Create an empty table. -/
def new (config : DialBackoffConfig) : Except DialBackoffError DialBackoff := do
  config.validate
  return ⟨config, ∅⟩

/-- The permission for one destination. -/
def permission
    (backoff : DialBackoff) (destination : Destination) (now : Duration) : DialPermission :=
  match backoff.failures.lookup destination with
  | some state =>
    if now.asNanos < state.retryAt.asNanos then .backingOff (state.retryAt.asNanos - now.asNanos)
    else .allowed
  | none => .allowed

/-- A new destination finds the table full. -/
def full (backoff : DialBackoff) (destination : Destination) : Bool :=
  destination ∉ backoff.failures && backoff.config.maximumDestinations ≤ backoff.failures.size

/-- Forget the destinations whose delay has passed, where the table is full. -/
def makeRoom
    (backoff : DialBackoff) (destination : Destination) (now : Duration) : DialBackoff :=
  if backoff.full destination then
    { backoff with
      failures := backoff.failures.keepIf fun state =>
        now.asNanos < state.retryAt.asNanos }
  else backoff

/-- The number of failures of a destination with a new one; the counter stops at its
largest value. -/
def nextFailures (backoff : DialBackoff) (destination : Destination) : Nat :=
  match backoff.failures.lookup destination with
  | none => 1
  | some state => min (state.failures + 1) (2 ^ 16 - 1)

/-- Record a failed dial in a table with room for it. -/
def recordFailure
    (backoff : DialBackoff) (destination : Destination)
    (now : Duration) : DialBackoff × Except DialBackoffError Duration :=
  let failures := backoff.nextFailures destination
  let delay := exponentialDelay backoff.config.initialDelay backoff.config.maximumDelay failures
  match now.checkedAdd delay with
  | none => (backoff, .error .timeOverflow)
  | some retryAt =>
    ({ backoff with
      failures := backoff.failures.insert destination ⟨failures, retryAt⟩ }, .ok retryAt)

/-- Record a failed dial and return its retry time. -/
def noteFailure
    (backoff : DialBackoff) (destination : Destination) (now : Duration)
    (granted : Bool) : DialBackoff × Except DialBackoffError Duration :=
  let backoff := backoff.makeRoom destination now
  if backoff.full destination then (backoff, .error .capacity)
  else if ¬granted then (backoff, .error .allocationFailed)
  else backoff.recordFailure destination now

/-- Forget the failures of a destination. -/
def noteSuccess (backoff : DialBackoff) (destination : Destination) : DialBackoff × Bool :=
  ({ backoff with failures := backoff.failures.erase destination },
    (backoff.failures.lookup destination).isSome)

end DialBackoff

/-- A call on the table. -/
inductive DialCall
  | permission (destination : Destination) (now : Duration)
  | noteFailure (destination : Destination) (now : Duration) (granted : Bool)
  | noteSuccess (destination : Destination)
  deriving DecidableEq

variable {call : DialCall}

/-- The result of a call. -/
inductive DialOutcome
  | permission (permission : DialPermission)
  | failure (result : Except DialBackoffError Duration)
  | success (known : Bool)

/-- The time that a call is given. -/
def DialCall.time : DialCall → Option Nat
  | permission _ now => some now.asNanos
  | noteFailure _ now _ => some now.asNanos
  | noteSuccess _ => none

/-- Make one call. -/
def DialBackoff.step (backoff : DialBackoff) : DialCall → DialBackoff × DialOutcome
  | .permission destination now => (backoff, .permission (backoff.permission destination now))
  | .noteFailure destination now granted =>
    ((backoff.noteFailure destination now granted).1,
      .failure (backoff.noteFailure destination now granted).2)
  | .noteSuccess destination =>
    ((backoff.noteSuccess destination).1, .success (backoff.noteSuccess destination).2)

theorem asNanos_doubledUpTo (maximum delay : Duration) :
    (doubledUpTo maximum delay).asNanos = min maximum.asNanos (delay.asNanos * 2) := by
  have bound := maximum.representable
  rw [doubledUpTo, Duration.checkedMul, Duration.ofNanos, Duration.min]
  split_ifs with fits small above
  · exact (min_eq_right small).symm
  · exact (min_eq_left (Nat.le_of_not_le small)).symm
  · exact (min_eq_left (by omega)).symm
  · exact (min_eq_left (by omega)).symm

theorem asNanos_doubleUntil
    {delay : Duration} (small : delay.asNanos ≤ maximum.asNanos) (times : Nat) :
    (doubleUntil maximum times delay).asNanos =
      min maximum.asNanos (delay.asNanos * 2 ^ times) := by
  induction times generalizing delay with
  | zero => simpa [doubleUntil] using small
  | succ times ih =>
    have doubled := asNanos_doubledUpTo maximum delay
    have more : delay.asNanos * 2 ^ (times + 1) = delay.asNanos * 2 * 2 ^ times := by
      rw [Nat.pow_succ, Nat.mul_assoc, Nat.mul_comm (2 ^ times) 2]
    have grows : delay.asNanos * 2 ≤ delay.asNanos * 2 * 2 ^ times :=
      Nat.le_mul_of_pos_right _ (Nat.two_pow_pos times)
    rw [doubleUntil, more]
    split_ifs with reached
    · -- the ceiling is reached, and stays reached
      rw [reached] at doubled ⊢
      omega
    · rw [ih (by omega), doubled]
      have below : delay.asNanos * 2 < maximum.asNanos := by
        by_contra above
        apply reached
        have same : (doubledUpTo maximum delay).asNanos = maximum.asNanos := by
          omega
        cases maximum
        generalize doubledUpTo _ delay = next at same
        cases next
        simpa using same
      rw [min_eq_right below.le]

/-- After so many doublings the ceiling has long been reached. -/
theorem min_doubled_eq_maximum (positive : 0 < initial.asNanos)
    (short : maximum.asNanos / 10 ^ 9 ≤ maxDialBackoffSecs) {times : Nat} (many : 63 ≤ times) :
    min maximum.asNanos (initial.asNanos * 2 ^ times) = maximum.asNanos := by
  have ceiling : maximum.asNanos < 2 ^ 63 := by
    rw [maxDialBackoffSecs] at short
    omega
  have long : 2 ^ 63 ≤ 2 ^ times := Nat.pow_le_pow_right (by decide) many
  exact min_eq_left (ceiling.le.trans (long.trans (Nat.le_mul_of_pos_left _ positive)))

/-- The delay doubles with each failure, up to the maximum. -/
theorem asNanos_exponentialDelay (positive : 0 < initial.asNanos)
    (small : initial.asNanos ≤ maximum.asNanos)
    (short : maximum.asNanos / 10 ^ 9 ≤ maxDialBackoffSecs) (failures : Nat) :
    (exponentialDelay initial maximum failures).asNanos =
      min maximum.asNanos (initial.asNanos * 2 ^ (failures - 1)) := by
  rw [exponentialDelay, asNanos_doubleUntil small]
  by_cases few : failures ≤ 64
  · rw [min_eq_left few]
  · rw [min_doubled_eq_maximum positive short (by omega),
      min_doubled_eq_maximum positive short (by omega)]

/-- The counter of failures stops long after the ceiling is reached. -/
theorem asNanos_exponentialDelay_counted (positive : 0 < initial.asNanos)
    (small : initial.asNanos ≤ maximum.asNanos)
    (short : maximum.asNanos / 10 ^ 9 ≤ maxDialBackoffSecs) (count : Nat) :
    (exponentialDelay initial maximum (min (count + 1) (2 ^ 16 - 1))).asNanos =
      min maximum.asNanos (initial.asNanos * 2 ^ count) := by
  rw [asNanos_exponentialDelay positive small short]
  by_cases few : count + 1 ≤ 2 ^ 16 - 1
  · rw [min_eq_left few, Nat.add_sub_cancel]
  · rw [min_doubled_eq_maximum positive short (by omega),
      min_doubled_eq_maximum positive short (by omega)]

/-- The retry time of a destination after one more call: that of its last recorded
failure, unless it has succeeded since. -/
def nextRetryTime (destination : Destination) (known : Option Duration) :
    DialCall × DialOutcome → Option Duration
  | (.noteFailure other _ _, .failure (.ok retryAt)) =>
    if other = destination then some retryAt else known
  | (.noteSuccess other, _) => if other = destination then none else known
  | _ => known

/-- The retry time of a destination in a history. -/
def retryTime (destination : Destination) (history : List (DialCall × DialOutcome)) :
    Option Duration :=
  history.foldl (nextRetryTime destination) none

/-- The number of recorded failures of a destination, from zero where the call leaves it
out of the table. -/
def nextFailureCount (destination : Destination) (next : DialBackoff) (known : Nat) :
    DialCall × DialOutcome → Nat
  | (.noteFailure other _ _, .failure (.ok _)) =>
    if destination ∉ next.failures then 0
    else if other = destination then known + 1
    else known
  | _ => if destination ∉ next.failures then 0 else known

/-- The number of recorded failures of a destination since it last left the table. -/
def consecutiveFailures
    (fresh : DialBackoff) (destination : Destination) (calls : List DialCall) : Nat :=
  (calls.foldl
    (fun (known : DialBackoff × Nat) call =>
      ((known.1.step call).1, nextFailureCount destination (known.1.step call).1 known.2
          (call, (known.1.step call).2)))
    (fresh, 0)).2

/-- The calls come in the order of their times. -/
def InOrder (calls : List DialCall) : Prop := (calls.filterMap DialCall.time).Pairwise (· ≤ ·)

instance (calls : List DialCall) : Decidable (InOrder calls) :=
  inferInstanceAs (Decidable (List.Pairwise _ _))

theorem consecutiveFailures_concat
    (fresh : DialBackoff) (destination : Destination) (calls : List DialCall) (call : DialCall) :
    consecutiveFailures fresh destination (calls ++ [call]) = nextFailureCount destination
        ((after DialBackoff.step fresh calls).step call).1
        (consecutiveFailures fresh destination calls)
        (call, ((after DialBackoff.step fresh calls).step call).2) := by
  have state (start : DialBackoff × Nat) : (calls.foldl
        (fun (known : DialBackoff × Nat) call =>
          ((known.1.step call).1, nextFailureCount destination (known.1.step call).1 known.2
              (call, (known.1.step call).2))) start).1 =
        after DialBackoff.step start.1 calls := by
    induction calls generalizing start with
    | nil => rfl
    | cons first calls ih => exact ih _
  rw [consecutiveFailures, List.foldl_concat, state]
  rfl

namespace DialBackoff

variable {backoff : DialBackoff} {destination : Destination}

theorem full_iff :
    backoff.full destination = true ↔ destination ∉ backoff.failures ∧
        backoff.config.maximumDestinations ≤ backoff.failures.size := by
  simp [full]

@[simp] theorem config_makeRoom
    (backoff : DialBackoff) (destination : Destination) (now : Duration) :
    (backoff.makeRoom destination now).config = backoff.config := by
  rw [makeRoom]
  split_ifs <;> rfl

theorem size_makeRoom_le
    (backoff : DialBackoff) (destination : Destination) (now : Duration) :
    (backoff.makeRoom destination now).failures.size ≤ backoff.failures.size := by
  rw [makeRoom]
  split_ifs
  · exact size_keepIf_le _ _
  · exact le_refl _

/-- Only destinations whose delay has passed leave a full table. -/
theorem lookup_makeRoom {other : Destination} {now : Duration}
    {state : FailureState} :
    (backoff.makeRoom destination now).failures.lookup other = some state ↔
      backoff.failures.lookup other = some state ∧
        (backoff.full destination = true → now.asNanos < state.retryAt.asNanos) := by
  rw [makeRoom]
  split_ifs with isFull
  · rw [lookup_keepIf, decide_eq_true_eq]
    simp [isFull]
  · simp [isFull]

/-- A destination that is looked for stays where it is when room is made. -/
theorem lookup_makeRoom_self
    (backoff : DialBackoff) (destination : Destination) (now : Duration) :
    (backoff.makeRoom destination now).failures.lookup destination =
      backoff.failures.lookup destination := by
  ext state
  rw [lookup_makeRoom]
  refine and_iff_left_of_imp fun found isFull => ?_
  rw [full_iff, ← lookup_eq_none, found] at isFull
  cases isFull.1

/-- What the record of a failure does. -/
inductive Noted
    (backoff : DialBackoff) (destination : Destination) (now : Duration) (granted : Bool) :
    DialBackoff × Except DialBackoffError Duration → Prop
  /-- Every entry of a full table is still backing off. -/
  | capacity
      (isFull : backoff.full destination = true)
      (waiting : ∀ other state, backoff.failures.lookup other = some state →
        now.asNanos < state.retryAt.asNanos) :
      Noted backoff destination now granted (backoff, .error .capacity)
  | allocationFailed
      (refused : granted = false) :
      Noted backoff destination now granted
        (backoff.makeRoom destination now, .error .allocationFailed)
  | timeOverflow
      (late : maxDurationNanos < now.asNanos +
        (exponentialDelay backoff.config.initialDelay backoff.config.maximumDelay
          (backoff.nextFailures destination)).asNanos) :
      Noted backoff destination now granted (backoff.makeRoom destination now, .error .timeOverflow)
  | recorded
      (retryAt : Duration)
      (room : (backoff.makeRoom destination now).full destination = false)
      (delayed : retryAt.asNanos = now.asNanos +
        (exponentialDelay backoff.config.initialDelay backoff.config.maximumDelay
          (backoff.nextFailures destination)).asNanos) :
      Noted backoff destination now granted
        ({ backoff.makeRoom destination now with
          failures := (backoff.makeRoom destination now).failures.insert destination
            ⟨backoff.nextFailures destination, retryAt⟩ }, .ok retryAt)

theorem noted_noteFailure (bounded : backoff.failures.size ≤ backoff.config.maximumDestinations)
    (destination : Destination) (now : Duration) (granted : Bool) :
    Noted backoff destination now granted (backoff.noteFailure destination now granted) := by
  have same : (backoff.makeRoom destination now).nextFailures destination =
      backoff.nextFailures destination := by
    rw [nextFailures, nextFailures, lookup_makeRoom_self]
  rw [noteFailure]
  split_ifs with isFull refused
  · -- nothing left the table, so all its entries are waiting
    obtain ⟨-, large⟩ := full_iff.mp isFull
    have was : backoff.full destination = true := by
      by_contra notFull
      rw [makeRoom, if_neg notFull] at isFull
      exact notFull isFull
    rw [config_makeRoom] at large
    have kept := bounded.trans large
    rw [makeRoom, if_pos was] at kept ⊢
    obtain ⟨unchanged, waiting⟩ := keepIf_of_size_le kept
    rw [unchanged]
    refine .capacity was fun other state found => ?_
    have inside := waiting ⟨other, state⟩ (mem_lookup_iff.mp found)
    simpa using inside
  · rw [recordFailure, same]
    cases added : now.checkedAdd
        (exponentialDelay (backoff.makeRoom destination now).config.initialDelay
          (backoff.makeRoom destination now).config.maximumDelay
          (backoff.nextFailures destination)) with
    | none =>
      rw [Duration.checkedAdd, Duration.ofNanos, config_makeRoom] at added
      split_ifs at added with fits
      exact .timeOverflow (Nat.not_le.mp fits)
    | some retryAt =>
      have delayed : retryAt.asNanos = now.asNanos +
          (exponentialDelay backoff.config.initialDelay backoff.config.maximumDelay
            (backoff.nextFailures destination)).asNanos := by
        rw [Duration.checkedAdd, Duration.ofNanos, config_makeRoom] at added
        split_ifs at added with fits
        cases added
        rfl
      exact .recorded retryAt (by simpa using isFull) delayed
  · exact .allocationFailed (by simpa using refused)

/-- A failure never takes more entries than the maximum. -/
theorem size_noteFailure_le (bounded : backoff.failures.size ≤ backoff.config.maximumDestinations)
    (destination : Destination) (now : Duration) (granted : Bool) :
    (backoff.noteFailure destination now granted).1.failures.size ≤
      backoff.config.maximumDestinations := by
  have smaller := (size_makeRoom_le backoff destination now).trans bounded
  have noted := noted_noteFailure bounded destination now granted
  generalize backoff.noteFailure destination now granted = result at noted
  cases noted with
  | capacity => exact bounded
  | allocationFailed | timeOverflow => exact smaller
  | recorded retryAt room delayed =>
    by_cases known : destination ∈ (backoff.makeRoom destination now).failures
    · rw [size_insert_of_mem known]
      exact smaller
    · rw [size_insert_of_not_mem known]
      by_contra large
      have isFull : (backoff.makeRoom destination now).full destination = true :=
        full_iff.mpr ⟨known, by rw [config_makeRoom]; omega⟩
      rw [room] at isFull
      cases isFull

theorem config_noteFailure (bounded : backoff.failures.size ≤ backoff.config.maximumDestinations)
    (destination : Destination) (now : Duration) (granted : Bool) :
    (backoff.noteFailure destination now granted).1.config = backoff.config := by
  have noted := noted_noteFailure bounded destination now granted
  generalize backoff.noteFailure destination now granted = result at noted
  cases noted <;> simp

/-- A failure of another destination leaves an entry, or drops it from a full table after
its retry time. -/
theorem lookup_noteFailure_other
    (bounded : backoff.failures.size ≤ backoff.config.maximumDestinations)
    {other : Destination} (different : destination ≠ other) (now : Duration) (granted : Bool) :
    (backoff.noteFailure other now granted).1.failures.lookup destination =
        backoff.failures.lookup destination ∨
      (backoff.noteFailure other now granted).1.failures.lookup destination =
        (backoff.makeRoom other now).failures.lookup destination := by
  have noted := noted_noteFailure bounded other now granted
  generalize backoff.noteFailure other now granted = result at noted
  cases noted with
  | capacity => exact .inl rfl
  | allocationFailed | timeOverflow => exact .inr rfl
  | recorded => exact .inr (lookup_insert_ne different)

end DialBackoff

/-- An entry follows the history of its destination: it holds the failures and the retry
time, and without it there are no failures and any retry time has passed. -/
inductive TracksFailures (times : List Nat) : Option FailureState → Nat → Option Duration → Prop
  | known
      (state : FailureState) (count : Nat)
      (failed : 0 < count)
      (counted : state.failures = min count (2 ^ 16 - 1)) :
      TracksFailures times (some state) count (some state.retryAt)
  | unknown
      (retry : Option Duration)
      (passed : ∀ retryAt, retry = some retryAt → ∃ time ∈ times, retryAt.asNanos ≤ time) :
      TracksFailures times none 0 retry

/-- An entry that stays, or leaves after its retry time, still follows its history. -/
theorem TracksFailures.later
    {entry next : Option FailureState}
    (follows : TracksFailures times entry count retry)
    (more : List Nat)
    (stays : next = entry ∨ next = none ∧ ∀ state, entry = some state →
      ∃ time ∈ more, state.retryAt.asNanos ≤ time) :
    TracksFailures (times ++ more) next (if next = none then 0 else count) retry := by
  cases follows with
  | known state count failed counted =>
    obtain rfl | ⟨rfl, late⟩ := stays
    · exact .known state count failed counted
    · refine .unknown _ fun retryAt same => ?_
      cases same
      obtain ⟨time, inside, passed⟩ := late state rfl
      exact ⟨time, List.mem_append_right _ inside, passed⟩
  | unknown retry passed =>
    have gone : next = none := by
      obtain same | ⟨same, -⟩ := stays
      · exact same
      · exact same
    rw [gone, if_pos rfl]
    refine .unknown _ fun retryAt same => ?_
    obtain ⟨time, inside, late⟩ := passed retryAt same
    exact ⟨time, List.mem_append_left _ inside, late⟩

theorem config_step (bounded : backoff.failures.size ≤ backoff.config.maximumDestinations)
    (call : DialCall) :
    (backoff.step call).1.config = backoff.config := by
  cases call with
  | permission => rfl
  | noteFailure destination now granted =>
    exact DialBackoff.config_noteFailure bounded destination now granted
  | noteSuccess => rfl

theorem size_step_le (bounded : backoff.failures.size ≤ backoff.config.maximumDestinations)
    (call : DialCall) :
    (backoff.step call).1.failures.size ≤ backoff.config.maximumDestinations := by
  cases call with
  | permission => exact bounded
  | noteFailure destination now granted =>
    exact DialBackoff.size_noteFailure_le bounded destination now granted
  | noteSuccess destination => exact (size_erase_le _ _).trans bounded

/-- What a call does to the entry of a destination that it does not record. -/
theorem lookup_step (bounded : backoff.failures.size ≤ backoff.config.maximumDestinations)
    (destination : Destination) (call : DialCall)
    (kept : ∀ now granted, call = .noteFailure destination now granted →
      ∀ retryAt, (backoff.noteFailure destination now granted).2 ≠ .ok retryAt)
    (failed : call ≠ .noteSuccess destination) :
    (backoff.step call).1.failures.lookup destination = backoff.failures.lookup destination ∨
      (∃ other now granted, call = .noteFailure other now granted ∧ backoff.full other = true ∧
        (backoff.step call).1.failures.lookup destination = none ∧
        ∀ state, backoff.failures.lookup destination = some state →
          state.retryAt.asNanos ≤ now.asNanos) := by
  -- what makeRoom does to an entry
  have room (other : Destination) (now : Duration) :
      (backoff.makeRoom other now).failures.lookup destination =
          backoff.failures.lookup destination ∨
        backoff.full other = true ∧
          (backoff.makeRoom other now).failures.lookup destination = none ∧
          ∀ state, backoff.failures.lookup destination = some state →
            state.retryAt.asNanos ≤ now.asNanos := by
    by_cases isFull : backoff.full other = true
    · cases found : (backoff.makeRoom other now).failures.lookup destination with
      | some state => exact .inl (DialBackoff.lookup_makeRoom.mp found).1.symm
      | none =>
        refine .inr ⟨isFull, rfl, fun state was => ?_⟩
        by_contra waiting
        have stays : (backoff.makeRoom other now).failures.lookup destination = some state :=
          DialBackoff.lookup_makeRoom.mpr ⟨was, fun _ => Nat.not_le.mp waiting⟩
        rw [found] at stays
        cases stays
    · rw [DialBackoff.makeRoom, if_neg isFull]
      exact .inl rfl
  cases call with
  | permission => exact .inl rfl
  | noteFailure other now granted =>
    have same : (backoff.noteFailure other now granted).1.failures.lookup destination =
          backoff.failures.lookup destination ∨
        (backoff.noteFailure other now granted).1.failures.lookup destination =
          (backoff.makeRoom other now).failures.lookup destination := by
      by_cases different : destination = other
      · subst different
        have noted := DialBackoff.noted_noteFailure bounded destination now granted
        have unrecorded := kept now granted rfl
        generalize backoff.noteFailure destination now granted = result at noted unrecorded
        cases noted with
        | capacity => exact .inl rfl
        | allocationFailed | timeOverflow => exact .inr rfl
        | recorded retryAt => exact absurd rfl (unrecorded retryAt)
      · exact DialBackoff.lookup_noteFailure_other bounded different now granted
    obtain same | same := same
    · exact .inl same
    · obtain stays | ⟨isFull, gone, late⟩ := room other now
      · exact .inl (same.trans stays)
      · exact .inr ⟨other, now, granted, rfl, isFull, same.trans gone, late⟩
  | noteSuccess other =>
    refine .inl (lookup_erase_ne fun same => failed ?_)
    rw [same]

/-- The failure count of a destination after a call that does not record a failure of it. -/
theorem nextFailureCount_of_unrecorded {next : DialBackoff} {outcome : DialOutcome}
    (kept : ∀ now granted retryAt,
      (call, outcome) ≠ (.noteFailure destination now granted, .failure (.ok retryAt))) :
    nextFailureCount destination next count (call, outcome) =
      if next.failures.lookup destination = none then 0 else count := by
  simp only [lookup_eq_none]
  rw [nextFailureCount.eq_def]
  split
  next other now granted retryAt same =>
    have different : other ≠ destination := by
      rintro rfl
      exact kept now granted retryAt same
    simp [different]
  next => rfl

/-- The retry time of a destination after a call that neither records a failure of it nor
forgets it. -/
theorem nextRetryTime_of_unrecorded {outcome : DialOutcome}
    (kept : ∀ now granted retryAt,
      (call, outcome) ≠ (.noteFailure destination now granted, .failure (.ok retryAt)))
    (failed : call ≠ .noteSuccess destination) :
    nextRetryTime destination retry (call, outcome) = retry := by
  rw [nextRetryTime.eq_def]
  split
  next other now granted retryAt same =>
    refine if_neg ?_
    rintro rfl
    exact kept now granted retryAt same
  next other result same =>
    refine if_neg ?_
    rintro rfl
    cases same
    exact failed rfl
  next => rfl

theorem TracksFailures.nextFailures
    (follows : TracksFailures times (backoff.failures.lookup destination) count retry) :
    backoff.nextFailures destination = min (count + 1) (2 ^ 16 - 1) := by
  rw [DialBackoff.nextFailures]
  generalize backoff.failures.lookup destination = entry at follows
  cases follows with
  | known state count failed counted =>
    change min (state.failures + 1) (2 ^ 16 - 1) = _
    omega
  | unknown => rfl

/-- The retry time of an entry is that of its history. -/
theorem TracksFailures.retryAt {state : FailureState}
    (follows : TracksFailures times (some state) count retry) :
    retry = some state.retryAt := by
  cases follows
  rfl

/-- Without an entry any retry time has passed. -/
theorem TracksFailures.passed
    (follows : TracksFailures times none count retry) {retryAt : Duration}
    (known : retry = some retryAt) :
    ∃ time ∈ times, retryAt.asNanos ≤ time := by
  cases follows with
  | unknown _ passed => exact passed retryAt known

/-- A recorded failure counts once more, from the entry that was there. -/
theorem tracks_recordFailure (bounded : backoff.failures.size ≤ backoff.config.maximumDestinations)
    (follows : TracksFailures times (backoff.failures.lookup destination) count retry)
    (now : Duration) (granted : Bool) {retryAt : Duration}
    (recorded : (backoff.noteFailure destination now granted).2 = .ok retryAt) (more : List Nat) :
    TracksFailures more
      ((backoff.noteFailure destination now granted).1.failures.lookup destination)
      (count + 1) (some retryAt) := by
  have noted := DialBackoff.noted_noteFailure bounded destination now granted
  generalize backoff.noteFailure destination now granted = result at noted recorded
  cases noted with
  | capacity | allocationFailed | timeOverflow => cases recorded
  | recorded other room delayed =>
    cases recorded
    rw [lookup_insert]
    exact .known ⟨backoff.nextFailures destination, retryAt⟩ _ (Nat.succ_pos count)
      follows.nextFailures

/-- Every call keeps each entry true to the history of its destination. -/
theorem tracks_step (bounded : backoff.failures.size ≤ backoff.config.maximumDestinations)
    (follows : TracksFailures times (backoff.failures.lookup destination) count retry)
    (call : DialCall) :
    TracksFailures (times ++ call.time.toList) ((backoff.step call).1.failures.lookup destination)
      (nextFailureCount destination (backoff.step call).1 count (call, (backoff.step call).2))
      (nextRetryTime destination retry (call, (backoff.step call).2)) := by
  by_cases recorded : ∃ now granted retryAt, (call, (backoff.step call).2) =
        (.noteFailure destination now granted, .failure (.ok retryAt))
  · obtain ⟨now, granted, retryAt, same⟩ := recorded
    obtain ⟨rfl, outcome⟩ := Prod.mk.inj same
    have result : (backoff.noteFailure destination now granted).2 = .ok retryAt :=
      DialOutcome.failure.inj outcome
    have noted := tracks_recordFailure bounded follows now granted result
      (times ++ (DialCall.noteFailure destination now granted).time.toList)
    rw [outcome, nextFailureCount, nextRetryTime, if_pos rfl, if_pos rfl, if_neg]
    · exact noted
    · intro absent
      rw [← lookup_eq_none] at absent
      rw [DialBackoff.step] at absent
      rw [absent] at noted
      cases noted
  · push Not at recorded
    rw [nextFailureCount_of_unrecorded recorded]
    by_cases succeeded : call = .noteSuccess destination
    · -- the entry is erased with its retry time
      subst succeeded
      have gone : ((backoff.noteSuccess destination).1.failures).lookup destination = none :=
        lookup_erase _ _
      rw [DialBackoff.step, gone, if_pos rfl, nextRetryTime, if_pos rfl]
      exact .unknown none fun retryAt same => nomatch same
    · rw [nextRetryTime_of_unrecorded recorded succeeded]
      refine follows.later _ ?_
      have entry := lookup_step bounded destination call
        (fun now granted same retryAt result => recorded now granted retryAt (by
          rw [same, DialBackoff.step, result]))
        succeeded
      obtain stays | ⟨other, now, granted, rfl, -, gone, late⟩ := entry
      · exact .inl stays
      · refine .inr ⟨gone, fun state found => ⟨now.asNanos, ?_, late state found⟩⟩
        simp [DialCall.time]

theorem created_of_new
    {config : DialBackoffConfig} {fresh : DialBackoff}
    (created : DialBackoff.new config = .ok fresh) :
    fresh = ⟨config, ∅⟩ ∧ 0 < config.initialDelay.asNanos ∧
      config.initialDelay.asNanos ≤ config.maximumDelay.asNanos ∧
      config.maximumDelay.asNanos / 10 ^ 9 ≤ maxDialBackoffSecs := by
  obtain ⟨_, validated, result⟩ := Outcome.bind_eq_ok.mp created
  obtain ⟨_, _, delays⟩ := Outcome.bind_eq_ok.mp validated
  obtain ⟨positive, small, short⟩ := Outcome.ensure_eq_ok.mp delays
  cases result
  exact ⟨rfl, Nat.pos_of_ne_zero positive, small, short⟩

/-- After any calls the table keeps its maximum, and each entry the history of its
destination. -/
theorem tracks_run
    {config : DialBackoffConfig} {fresh : DialBackoff}
    (created : DialBackoff.new config = .ok fresh) (calls : List DialCall) :
    (after DialBackoff.step fresh calls).config = config ∧
      (after DialBackoff.step fresh calls).failures.size ≤ config.maximumDestinations ∧
      ∀ destination, TracksFailures (calls.filterMap DialCall.time)
        ((after DialBackoff.step fresh calls).failures.lookup destination)
        (consecutiveFailures fresh destination calls)
        (retryTime destination (history DialBackoff.step fresh calls)) := by
  induction calls using List.reverseRecOn with
  | nil =>
    obtain ⟨rfl, -⟩ := created_of_new created
    refine ⟨rfl, Nat.zero_le _, fun destination => ?_⟩
    exact .unknown none fun retryAt same => nomatch same
  | append_singleton calls call ih =>
    obtain ⟨same, small, follows⟩ := ih
    have bounded : (after DialBackoff.step fresh calls).failures.size ≤
        (after DialBackoff.step fresh calls).config.maximumDestinations := by
      rw [same]
      exact small
    have reached : after DialBackoff.step fresh (calls ++ [call]) =
        ((after DialBackoff.step fresh calls).step call).1 := by
      rw [after_append]
      rfl
    have times : (calls ++ [call]).filterMap DialCall.time =
        calls.filterMap DialCall.time ++ call.time.toList := by
      cases timed : call.time <;> simp [timed]
    rw [reached, times]
    refine ⟨(config_step bounded call).trans same, ?_, fun destination => ?_⟩
    · have kept := size_step_le bounded call
      rwa [same] at kept
    · rw [consecutiveFailures_concat, retryTime, history_concat, List.foldl_concat]
      exact tracks_step bounded (follows destination) call

/-- Earlier times are not after a later call. -/
theorem InOrder.le
    {calls : List DialCall} (ordered : InOrder (calls ++ [call])) {time now : Nat}
    (earlier : time ∈ calls.filterMap DialCall.time) (timed : call.time = some now) :
    time ≤ now := by
  rw [InOrder, List.filterMap_append, List.pairwise_append] at ordered
  exact ordered.2.2 time earlier now (by simp [timed])

/-- What a call must do after earlier ones. -/
structure Specified
    (config : DialBackoffConfig) (fresh : DialBackoff) (calls : List DialCall)
    (call : DialCall) : Prop where
  /-- A recorded failure is retried after the delay of its number, doubled each time. -/
  retried (destination : Destination) (now : Duration) (granted : Bool) :
    call = .noteFailure destination now granted →
      match (Run.after DialBackoff.step fresh calls).noteFailure destination now granted with
      | (_, .ok retryAt) =>
        retryAt.asNanos = now.asNanos + min config.maximumDelay.asNanos
          (config.initialDelay.asNanos * 2 ^ consecutiveFailures fresh destination calls)
      | (_, .error .timeOverflow) =>
        maxDurationNanos < now.asNanos + min config.maximumDelay.asNanos
          (config.initialDelay.asNanos * 2 ^ consecutiveFailures fresh destination calls)
      | (after, .error .capacity) =>
        after = Run.after DialBackoff.step fresh calls ∧ destination ∉ after.failures ∧
          after.failures.size = config.maximumDestinations ∧
          ∀ other state, after.failures.lookup other = some state →
            now.asNanos < state.retryAt.asNanos
      | (_, .error .allocationFailed) => granted = false
      | (_, .error _) => False
  /-- A destination backs off before its retry time. -/
  backingOff (destination : Destination) (now : Duration) :
    call = .permission destination now → ∀ remaining,
      (Run.after DialBackoff.step fresh calls).permission destination now = .backingOff remaining ↔
        ∃ retryAt, retryTime destination (history DialBackoff.step fresh calls) = some retryAt ∧
            now.asNanos < retryAt.asNanos ∧ remaining = retryAt.asNanos - now.asNanos
  /-- An entry leaves by a success, or from a full table after its retry time. -/
  disappears (destination : Destination) :
    destination ∈ (Run.after DialBackoff.step fresh calls).failures →
      destination ∉ (Run.after DialBackoff.step fresh (calls ++ [call])).failures →
        call = .noteSuccess destination ∨
          ∃ other now granted retryAt, call = .noteFailure other now granted ∧
            other ∉ (Run.after DialBackoff.step fresh calls).failures ∧
            (Run.after DialBackoff.step fresh calls).failures.size = config.maximumDestinations ∧
            retryTime destination (history DialBackoff.step fresh calls) = some retryAt ∧
            retryAt.asNanos ≤ now.asNanos
  bounded : (Run.after DialBackoff.step fresh calls).failures.size ≤ config.maximumDestinations

/-- The dial backoff does what it must, at every call of a run in the order of the times. -/
theorem dialBackoff_specified
    {config : DialBackoffConfig} {fresh : DialBackoff}
    (created : DialBackoff.new config = .ok fresh) (calls : List DialCall) (call : DialCall)
    (ordered : InOrder (calls ++ [call])) :
    Specified config fresh calls call := by
  obtain ⟨-, positive, small, short⟩ := created_of_new created
  obtain ⟨sameConfig, size, follows⟩ := tracks_run created calls
  have reached : after DialBackoff.step fresh (calls ++ [call]) =
      ((after DialBackoff.step fresh calls).step call).1 := by
    rw [after_append]
    rfl
  refine ⟨?_, ?_, ?_, size⟩
  all_goals
    generalize Run.history DialBackoff.step fresh calls = history at follows ⊢
    generalize after DialBackoff.step fresh calls = backoff at *
  all_goals
    have bounded : backoff.failures.size ≤ backoff.config.maximumDestinations := by
      rw [sameConfig]
      exact size
    have filled {destination : Destination} (isFull : backoff.full destination = true) :
        destination ∉ backoff.failures ∧ backoff.failures.size = config.maximumDestinations := by
      obtain ⟨absent, large⟩ := DialBackoff.full_iff.mp isFull
      rw [sameConfig] at large
      exact ⟨absent, le_antisymm size large⟩
  · intro destination now granted _
    have delay : (exponentialDelay backoff.config.initialDelay backoff.config.maximumDelay
          (backoff.nextFailures destination)).asNanos =
        min config.maximumDelay.asNanos
          (config.initialDelay.asNanos * 2 ^ consecutiveFailures fresh destination calls) := by
      rw [(follows destination).nextFailures, sameConfig]
      exact asNanos_exponentialDelay_counted positive small short _
    have noted := DialBackoff.noted_noteFailure bounded destination now granted
    generalize backoff.noteFailure destination now granted = result at noted
    cases noted with
    | capacity isFull waiting =>
      obtain ⟨absent, large⟩ := filled isFull
      exact ⟨rfl, absent, large, waiting⟩
    | allocationFailed refused => exact refused
    | timeOverflow late =>
      rw [delay] at late
      exact late
    | recorded retryAt room delayed =>
      rw [delay] at delayed
      exact delayed
  · rintro destination now rfl remaining
    have entry := follows destination
    have known : ∀ state, backoff.failures.lookup destination = some state →
        retryTime destination history = some state.retryAt := by
      intro state found
      rw [found] at entry
      exact entry.retryAt
    rw [DialBackoff.permission]
    cases found : backoff.failures.lookup destination with
    | some state =>
      rw [known state found]
      by_cases waiting : now.asNanos < state.retryAt.asNanos
      · simp [waiting, eq_comm]
      · simp [waiting]
    | none =>
      refine iff_of_false (fun same => nomatch same) ?_
      rintro ⟨retryAt, retry, waiting, -⟩
      rw [found] at entry
      obtain ⟨time, earlier, late⟩ := entry.passed retry
      have before : time ≤ now.asNanos := ordered.le earlier rfl
      omega
  · intro destination known gone
    obtain ⟨state, found⟩ := Option.isSome_iff_exists.mp (lookup_isSome.mpr known)
    rw [reached, ← lookup_eq_none] at gone
    by_cases succeeded : call = .noteSuccess destination
    · exact .inl succeeded
    · refine .inr ?_
      have stays := lookup_step bounded destination call ?_ succeeded
      · obtain same | ⟨other, now, granted, rfl, isFull, -, late⟩ := stays
        · rw [same, found] at gone
          cases gone
        · obtain ⟨absent, large⟩ := filled isFull
          have entry := follows destination
          rw [found] at entry
          exact ⟨other, now, granted, state.retryAt, rfl, absent, large, entry.retryAt,
            late state found⟩
      · rintro now granted rfl retryAt recorded
        -- a failure that is recorded is found afterwards
        have entry := tracks_recordFailure bounded (follows destination) now granted recorded []
        rw [DialBackoff.step] at gone
        rw [gone] at entry
        cases entry

/-- A table of one destination, which makes room for another. -/
theorem dialBackoff_specified_eviction :
    Specified ⟨1, ⟨10 ^ 9, by decide⟩, ⟨60 * 10 ^ 9, by decide⟩⟩
      ⟨⟨1, ⟨10 ^ 9, by decide⟩, ⟨60 * 10 ^ 9, by decide⟩⟩, ∅⟩
      [.noteFailure ⟨.udp, ⟨.v4 1, 5060, 0, 0⟩, none⟩ ⟨0, by decide⟩ true]
      (.noteFailure ⟨.tcp, ⟨.v4 2, 5060, 0, 0⟩, none⟩ ⟨2 * 10 ^ 9, by decide⟩ true) :=
  dialBackoff_specified rfl _ _ (by decide)

end Transport
end Sip
end LiveAISIP
