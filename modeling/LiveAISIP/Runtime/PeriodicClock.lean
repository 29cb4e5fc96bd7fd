import LiveAISIP.Library.Outcome
import LiveAISIP.Library.Run
import LiveAISIP.Transaction.Timer

/-!
# Periodic schedules

The fixed-rate schedules of `util/time.rs`.  A schedule advances from its last deadline,
not from the time of the wakeup, by all intervals that have passed; a wakeup executes at
most so many of them and skips the others.
-/

namespace LiveAISIP
namespace Runtime

open Outcome
open Transaction (Duration maxDurationNanos)
open List

/-- Scheduling configuration or arithmetic failure. -/
inductive TimeError
  | zeroInterval
  | zeroExecutionLimit
  | overflow
  deriving DecidableEq

/-- Result of advancing a schedule. -/
structure PeriodicAdvance where
  due : Nat
  executed : Nat
  nextDeadline : Duration
  deriving DecidableEq

/-- The overdue intervals that are not executed. -/
def PeriodicAdvance.skipped (advance : PeriodicAdvance) : Nat := advance.due - advance.executed

/-- Add a delay to a time. -/
def checkedDeadline (now delay : Duration) : Except TimeError Duration :=
  match now.checkedAdd delay with
  | some deadline => .ok deadline
  | none => .error .overflow

/-- Multiply a duration, in 128 bits. -/
def checkedDurationMul (value : Duration) (multiplier : Nat) : Except TimeError Duration :=
  let nanos := value.asNanos * multiplier
  if 2 ^ 128 ≤ nanos then .error .overflow
  else if long : 2 ^ 64 ≤ nanos / 10 ^ 9 then .error .overflow
  else
    .ok ⟨nanos, by
      rw [maxDurationNanos]
      omega⟩

/-- Advance a schedule to a time. -/
def advancePeriodic
    (nextDeadline now interval : Duration)
    (executionLimit : UInt64) : Except TimeError (Option PeriodicAdvance) := do
  ensure (interval.asNanos ≠ 0) .zeroInterval
  ensure (executionLimit ≠ 0) .zeroExecutionLimit
  if now.asNanos < nextDeadline.asNanos then return none
  else
    let lateIntervals := (now.asNanos - nextDeadline.asNanos) / interval.asNanos
    let due := lateIntervals + 1
    ensure (due < 2 ^ 64) .overflow
    let advance ← checkedDurationMul interval due
    let nextDeadline ← checkedDeadline nextDeadline advance
    return some ⟨due, min due executionLimit.toNat, nextDeadline⟩

/-- The number of intervals up to the first deadline after a time. -/
def ticksUntil (nextDeadline now interval : Nat) : Nat := (now - nextDeadline) / interval + 1

/-- That deadline is the first one of the grid after the time. -/
theorem ticksUntil_spec
    {nextDeadline now interval : Nat} (positive : 0 < interval) (late : nextDeadline ≤ now) :
    now < nextDeadline + ticksUntil nextDeadline now interval * interval ∧
      ∀ other, now < nextDeadline + other * interval →
        ticksUntil nextDeadline now interval ≤ other := by
  have split := Nat.div_add_mod (now - nextDeadline) interval
  have small := Nat.mod_lt (now - nextDeadline) positive
  rw [ticksUntil]
  constructor
  · rw [Nat.succ_mul, Nat.mul_comm]
    omega
  · intro other after
    apply Nat.succ_le_of_lt
    rw [Nat.div_lt_iff_lt_mul positive]
    omega

/-- What the advance of a schedule returns. -/
inductive Advances (nextDeadline now interval : Duration) (executionLimit : UInt64) :
    Except TimeError (Option PeriodicAdvance) → Prop
  | early
      (early : now.asNanos < nextDeadline.asNanos) :
      Advances nextDeadline now interval executionLimit (.ok none)
  | advanced
      (advance : PeriodicAdvance)
      (late : nextDeadline.asNanos ≤ now.asNanos)
      (counted : advance.due = ticksUntil nextDeadline.asNanos now.asNanos interval.asNanos)
      (executed : advance.executed = min advance.due executionLimit.toNat)
      (deadline : advance.nextDeadline.asNanos =
        nextDeadline.asNanos + advance.due * interval.asNanos)
      (fits : advance.due < 2 ^ 64) :
      Advances nextDeadline now interval executionLimit (.ok (some advance))
  | overflow
      (late : nextDeadline.asNanos ≤ now.asNanos)
      (large : 2 ^ 64 ≤ ticksUntil nextDeadline.asNanos now.asNanos interval.asNanos ∨
        maxDurationNanos < nextDeadline.asNanos +
          ticksUntil nextDeadline.asNanos now.asNanos interval.asNanos * interval.asNanos) :
      Advances nextDeadline now interval executionLimit (.error .overflow)

theorem checkedDurationMul_eq (value : Duration) (multiplier : Nat) :
    (∃ product, product.asNanos = value.asNanos * multiplier ∧
      checkedDurationMul value multiplier = .ok product) ∨
    maxDurationNanos < value.asNanos * multiplier ∧
      checkedDurationMul value multiplier = .error .overflow := by
  rw [checkedDurationMul]
  split_ifs with wide long
  · refine .inr ⟨?_, rfl⟩
    rw [maxDurationNanos]
    omega
  · refine .inr ⟨?_, rfl⟩
    rw [maxDurationNanos]
    omega
  · exact .inl ⟨_, rfl, rfl⟩

theorem checkedDeadline_eq (now delay : Duration) :
    (∃ deadline, deadline.asNanos = now.asNanos + delay.asNanos ∧
      checkedDeadline now delay = .ok deadline) ∨
    maxDurationNanos < now.asNanos + delay.asNanos ∧
      checkedDeadline now delay = .error .overflow := by
  rw [checkedDeadline, Duration.checkedAdd, Duration.ofNanos]
  split_ifs with fits
  · exact .inl ⟨_, rfl, rfl⟩
  · exact .inr ⟨Nat.not_le.mp fits, rfl⟩

/-- A schedule with an interval and a limit advances along its grid. -/
theorem advances_advancePeriodic
    (nextDeadline now : Duration) {interval : Duration} {executionLimit : UInt64}
    (positive : interval.asNanos ≠ 0) (limited : executionLimit ≠ 0) :
    Advances nextDeadline now interval executionLimit
      (advancePeriodic nextDeadline now interval executionLimit) := by
  rw [advancePeriodic, ensure_of positive, ok_bind, ensure_of limited, ok_bind]
  split_ifs with early
  · exact .early early
  · have late := Nat.le_of_not_lt early
    have counted : ticksUntil nextDeadline.asNanos now.asNanos interval.asNanos =
      (now.asNanos - nextDeadline.asNanos) / interval.asNanos + 1 := rfl
    dsimp only
    generalize (now.asNanos - nextDeadline.asNanos) / interval.asNanos + 1 = due at counted ⊢
    by_cases fits : due < 2 ^ 64
    · rw [ensure_of fits, ok_bind]
      obtain ⟨product, same, multiplied⟩ | ⟨large, refused⟩ := checkedDurationMul_eq interval due
      · rw [multiplied, ok_bind]
        obtain ⟨deadline, sum, added⟩ | ⟨large, refused⟩ := checkedDeadline_eq nextDeadline product
        · rw [added, ok_bind]
          refine .advanced _ late counted.symm rfl ?_ fits
          rw [sum, same, Nat.mul_comm]
        · rw [refused, error_bind]
          refine .overflow late (.inr ?_)
          rwa [counted, Nat.mul_comm, ← same]
      · rw [refused, error_bind]
        refine .overflow late (.inr ?_)
        rw [counted, Nat.mul_comm]
        exact Nat.lt_add_left _ large
    · rw [ensure, if_neg fits, error_bind]
      exact .overflow late (.inl (by rw [counted]; exact Nat.le_of_not_lt fits))

/-- A wakeup of a schedule; one that fails leaves the schedule. -/
def wake
    (interval : Duration) (executionLimit : UInt64) (nextDeadline now : Duration) :
    Duration × Except TimeError (Option PeriodicAdvance) :=
  match advancePeriodic nextDeadline now interval executionLimit with
  | .ok (some advance) => (advance.nextDeadline, .ok (some advance))
  | .ok none => (nextDeadline, .ok none)
  | .error error => (nextDeadline, .error error)

/-- The ticks of a grid, by number, that have been executed and that have been skipped. -/
structure TickLog where
  executed : List Nat
  skipped : List Nat

/-- The number of the next tick. -/
def TickLog.next (log : TickLog) : Nat := log.executed.length + log.skipped.length

/-- Log an advance: the first due ticks are executed, and the others skipped. -/
def TickLog.record (log : TickLog) (advance : PeriodicAdvance) : TickLog where
  executed := log.executed ++ range' log.next advance.executed
  skipped := log.skipped ++ range' (log.next + advance.executed) advance.skipped

/-- The log after one more wakeup. -/
def logWake
    (interval : Duration) (executionLimit : UInt64) (nextDeadline now : Duration)
    (log : TickLog) : TickLog :=
  match advancePeriodic nextDeadline now interval executionLimit with
  | .ok (some advance) => log.record advance
  | _ => log

/-- The log of a run of wakeups. -/
def tickLog
    (interval : Duration) (executionLimit : UInt64) (start : Duration)
    (wakeups : List Duration) : TickLog :=
  Run.carry (logWake interval executionLimit) (wake interval executionLimit) start ⟨[], []⟩ wakeups

/-- The schedule stands on the grid of its start, behind the ticks of its log, and each of
these is in the log once. -/
structure OnGrid (start interval nextDeadline : Duration) (log : TickLog) : Prop where
  grid : nextDeadline.asNanos = start.asNanos + log.next * interval.asNanos
  once : (log.executed ++ log.skipped).Perm (range log.next)

theorem next_record
    {log : TickLog} {advance : PeriodicAdvance} (few : advance.executed ≤ advance.due) :
    (log.record advance).next = log.next + advance.due := by
  rw [TickLog.next, TickLog.record, PeriodicAdvance.skipped]
  simp only [length_append, length_range']
  rw [TickLog.next]
  omega

/-- The due ticks follow those of the log. -/
theorem perm_record
    {log : TickLog} {advance : PeriodicAdvance} (few : advance.executed ≤ advance.due)
    (once : (log.executed ++ log.skipped).Perm (range log.next)) :
    ((log.record advance).executed ++ (log.record advance).skipped).Perm
      (range (log.record advance).next) := by
  have due : range' log.next advance.executed ++
      range' (log.next + advance.executed) advance.skipped = range' log.next advance.due := by
    rw [PeriodicAdvance.skipped, range'_append_1, Nat.add_sub_cancel' few]
  have all : range (log.next + advance.due) = range log.next ++ range' log.next advance.due := by
    rw [range_eq_range', range_eq_range', ← range'_append_1, Nat.zero_add]
  rw [next_record few, all, ← due, TickLog.record]
  dsimp only
  generalize range' log.next advance.executed = executed
  generalize range' (log.next + advance.executed) advance.skipped = skipped
  have moved := ((perm_append_comm.append_left log.executed).append_right skipped :
    (log.executed ++ (executed ++ log.skipped) ++ skipped).Perm
      (log.executed ++ (log.skipped ++ executed) ++ skipped))
  have known := once.append_right (executed ++ skipped)
  simp only [append_assoc] at moved known ⊢
  exact moved.trans known

section

variable {interval : Duration} {executionLimit : UInt64}
  (positive : interval.asNanos ≠ 0) (limited : executionLimit ≠ 0)

include positive limited

/-- Every wakeup leaves the schedule on its grid. -/
theorem onGrid_wake
    {start nextDeadline : Duration} {log : TickLog}
    (onGrid : OnGrid start interval nextDeadline log) (now : Duration) :
    OnGrid start interval (wake interval executionLimit nextDeadline now).1
      (logWake interval executionLimit nextDeadline now log) := by
  have advances := advances_advancePeriodic nextDeadline now positive limited
  rw [wake, logWake]
  generalize advancePeriodic nextDeadline now interval executionLimit = outcome at advances
  cases advances with
  | early => exact onGrid
  | overflow => exact onGrid
  | advanced advance late counted executed deadline fits =>
    have few : advance.executed ≤ advance.due := by
      rw [executed]
      exact min_le_left ..
    refine ⟨?_, perm_record few onGrid.once⟩
    rw [next_record few, Nat.add_mul, ← Nat.add_assoc, ← onGrid.grid]
    exact deadline

/-- After any wakeups the schedule stands on its grid, and every tick behind it was
executed or skipped, once. -/
theorem onGrid_run (start : Duration) (wakeups : List Duration) :
    OnGrid start interval (Run.after (wake interval executionLimit) start wakeups)
      (tickLog interval executionLimit start wakeups) := by
  have started : OnGrid start interval start ⟨[], []⟩ := by
    refine ⟨?_, .nil⟩
    rw [TickLog.next]
    simp
  exact Run.carry_invariant (OnGrid start interval) started
    (fun nextDeadline log now onGrid => onGrid_wake positive limited onGrid now) wakeups

end

/-- A number of intervals leads to the first deadline of the grid after a time. -/
def IsFirstAfter (nextDeadline now interval : Duration) (ticks : Nat) : Prop :=
  now.asNanos < nextDeadline.asNanos + ticks * interval.asNanos ∧
    ∀ other, now.asNanos < nextDeadline.asNanos + other * interval.asNanos → ticks ≤ other

/-- An advance goes to the first deadline after the time and accounts for all the
intervals up to it; there is none before the deadline, and it fails only where its
deadline, or the number of intervals, is not representable. -/
structure KeepsCadence (nextDeadline now interval : Duration) (executionLimit : UInt64)
    (outcome : Except TimeError (Option PeriodicAdvance)) : Prop where
  advanced : ∀ advance, outcome = .ok (some advance) →
    ∃ ticks, IsFirstAfter nextDeadline now interval ticks ∧
      advance.nextDeadline.asNanos = nextDeadline.asNanos + ticks * interval.asNanos ∧
      advance.executed + advance.skipped = ticks ∧
      advance.executed ≤ executionLimit.toNat ∧
      (0 < advance.skipped → advance.executed = executionLimit.toNat)
  early : outcome = .ok none ↔ now.asNanos < nextDeadline.asNanos
  failed : ∀ error, outcome = .error error →
    ∃ ticks, IsFirstAfter nextDeadline now interval ticks ∧ (2 ^ 64 ≤ ticks ∨
        maxDurationNanos < nextDeadline.asNanos + ticks * interval.asNanos)

theorem keepsCadence_advancePeriodic
    (nextDeadline now : Duration) {interval : Duration} {executionLimit : UInt64}
    (positive : interval.asNanos ≠ 0) (limited : executionLimit ≠ 0) :
    KeepsCadence nextDeadline now interval executionLimit
      (advancePeriodic nextDeadline now interval executionLimit) := by
  have first (late : nextDeadline.asNanos ≤ now.asNanos) : IsFirstAfter nextDeadline now interval
        (ticksUntil nextDeadline.asNanos now.asNanos interval.asNanos) :=
    ticksUntil_spec (Nat.pos_of_ne_zero positive) late
  have advances := advances_advancePeriodic nextDeadline now positive limited
  generalize advancePeriodic nextDeadline now interval executionLimit = outcome at advances
  cases advances with
  | early early => exact ⟨nofun, iff_of_true rfl early, nofun⟩
  | overflow late large =>
    exact ⟨nofun, iff_of_false nofun (Nat.not_lt.mpr late), fun _ _ => ⟨_, first late, large⟩⟩
  | advanced advance late counted executed deadline fits =>
    refine ⟨?_, iff_of_false nofun (Nat.not_lt.mpr late), nofun⟩
    intro other same
    cases same
    rw [PeriodicAdvance.skipped]
    refine ⟨advance.due, counted ▸ first late, deadline, ?_, ?_, ?_⟩ <;> omega

end Runtime
end LiveAISIP
