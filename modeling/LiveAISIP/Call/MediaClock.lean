import LiveAISIP.Call.Media

/-!
# The grid of the media clock

The media clock of `call/execution/runtime.rs` is a periodic schedule of ten
milliseconds, of which one cycle executes at most eight ticks.  Its deadlines
stay on the grid of the first one.
-/

namespace LiveAISIP
namespace Call

open Rtp LiveAISIP.Runtime
open Transaction (Duration maxDurationNanos)

namespace CallMedia

/-- One cycle of the media clock. -/
def clockCycle (media : CallMedia) (now : Duration) :
    CallMedia × Except (Fault CallMediaError) Unit :=
  processMediaClock now media

/-- The counters after an advance. -/
def ticked (diagnostics : MediaDiagnostics) (executed skipped : Nat) : MediaDiagnostics :=
  { diagnostics with
    mediaTicks := saturatingAdd diagnostics.mediaTicks executed
    skippedMediaTicks := saturatingAdd diagnostics.skippedMediaTicks skipped }

/-- A cycle is a wakeup of the schedule. -/
theorem clockCycle_eq {media : CallMedia} {next : Duration} (now : Duration)
    (running : media.nextMediaDeadline = some next) :
    (clockCycle media now).1 =
      match Runtime.advancePeriodic next now mediaTickInterval maxMediaTicksPerCycle with
      | .ok (some advance) =>
        { media with
          nextMediaDeadline := some advance.nextDeadline
          diagnostics := ticked media.diagnostics advance.executed advance.skipped }
      | _ => media := by
  rw [clockCycle, processMediaClock, Effect.bind_apply, Effect.read_apply]
  dsimp only
  rw [running]
  dsimp only
  rcases Runtime.advancePeriodic next now mediaTickInterval maxMediaTicksPerCycle with
    error | _ | advance <;> rfl

/-- The deadlines of the media clock are those of the schedule. -/
theorem nextMediaDeadline_after
    {media : CallMedia} {start : Duration} (running : media.nextMediaDeadline = some start)
    (wakeups : List Duration) :
    (Run.after clockCycle media wakeups).nextMediaDeadline =
      some (Run.after (wake mediaTickInterval maxMediaTicksPerCycle) start wakeups) := by
  induction wakeups generalizing media start with
  | nil => exact running
  | cons now wakeups ih =>
    rw [Run.after_cons, Run.after_cons]
    apply ih
    rw [clockCycle_eq now running, wake]
    cases Runtime.advancePeriodic start now mediaTickInterval maxMediaTicksPerCycle with
    | error error => exact running
    | ok outcome =>
      cases outcome with
      | none => exact running
      | some advance => rfl

end CallMedia

/-- Every wakeup of a schedule keeps its cadence; any wakeups leave it on the grid of its
start, with every tick behind it executed or skipped once; and so is the media clock. -/
theorem keepsCadence_onGrid
    {interval : Duration} {executionLimit : UInt64}
    (positive : interval.asNanos ≠ 0) (limited : executionLimit ≠ 0) :
    (∀ nextDeadline now, KeepsCadence nextDeadline now interval executionLimit
      (advancePeriodic nextDeadline now interval executionLimit)) ∧
    (∀ start wakeups, OnGrid start interval
      (Run.after (wake interval executionLimit) start wakeups)
      (tickLog interval executionLimit start wakeups)) ∧
    ∀ (media : CallMedia) start wakeups, media.nextMediaDeadline = some start → ∃ deadline,
        (Run.after CallMedia.clockCycle media wakeups).nextMediaDeadline = some deadline ∧
          OnGrid start mediaTickInterval deadline (tickLog mediaTickInterval 8 start wakeups) := by
  refine ⟨?_, ?_, ?_⟩
  · intro nextDeadline now
    exact keepsCadence_advancePeriodic nextDeadline now positive limited
  · intro start wakeups
    exact onGrid_run positive limited start wakeups
  · intro media start wakeups running
    exact ⟨_, CallMedia.nextMediaDeadline_after running wakeups,
      onGrid_run (by decide) (by decide) start wakeups⟩

theorem keepsCadence_onGrid_twice :
    (⟨2, by decide⟩ : Duration).asNanos ≠ 0 ∧ (3 : UInt64) ≠ 0 ∧
      OnGrid ⟨10, by decide⟩ ⟨2, by decide⟩
        (Run.after (wake ⟨2, by decide⟩ 3) ⟨10, by decide⟩
          [⟨11, by decide⟩, ⟨30, by decide⟩])
        (tickLog ⟨2, by decide⟩ 3 ⟨10, by decide⟩ [⟨11, by decide⟩, ⟨30, by decide⟩]) :=
  ⟨by decide, by decide, (keepsCadence_onGrid (by decide) (by decide)).2.1 _ _⟩

/-- Not only unrepresentable deadlines are refused: a number of intervals that does not
fit 64 bits is, too. -/
theorem not_refusesOnlyUnrepresentable :
    ¬∀ (nextDeadline now interval : Duration) (executionLimit : UInt64) (error : TimeError),
      interval.asNanos ≠ 0 → executionLimit ≠ 0 →
      advancePeriodic nextDeadline now interval executionLimit = .error error →
      ∃ ticks, IsFirstAfter nextDeadline now interval ticks ∧
        maxDurationNanos < nextDeadline.asNanos + ticks * interval.asNanos := by
  intro only
  obtain ⟨ticks, ⟨-, least⟩, large⟩ :=
    only ⟨0, by decide⟩ ⟨2 ^ 64, by decide⟩ ⟨1, by decide⟩ 1 .overflow (by decide) (by decide)
      (by decide)
  have few : ticks ≤ 2 ^ 64 + 1 := least (2 ^ 64 + 1) (by decide)
  have bound : maxDurationNanos = 2 ^ 64 * 10 ^ 9 - 1 := rfl
  dsimp only at large
  omega

end Call
end LiveAISIP
