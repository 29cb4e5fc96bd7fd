import LiveAISIP.Library.Run
import LiveAISIP.Transaction.Timer

/-!
# Session timers

The refresh and expiry deadlines of a dialog from `sip/dialog/session_timer.rs`.  An
operation assigns its fields one by one and may fail in between, so each is modelled with
the state that it leaves behind when it fails.
-/

namespace LiveAISIP
namespace Dialog

open Transaction (Duration maxDurationNanos)
open Run

/-- Session refresher from local perspective. -/
inductive Refresher
  | local_
  | remote
  deriving DecidableEq

/-- Due timer behavior. -/
inductive SessionTimerAction
  | refresh
  | expired
  | none

/-- Session timer failure. -/
inductive SessionTimerError
  | zeroInterval
  | belowMinimum
  | timeOverflow
  | refreshNotActive
  | counterExhausted
  deriving DecidableEq

/-- Largest value of a diagnostic counter. -/
def maxRefreshCounter : Nat := 2 ^ 32 - 1

/-- One negotiated dialog session timer. -/
structure SessionTimer where
  interval : Duration
  minimum : Duration
  refresher : Refresher
  refreshAt : Duration
  expiresAt : Duration
  active : Bool
  refreshing : Bool
  refreshCount : Nat
  failedRefreshes : Nat
  deriving DecidableEq

namespace SessionTimer

/-- Half of a duration. -/
def half (duration : Duration) : Duration where
  asNanos := duration.asNanos / 2
  representable := Nat.le_trans (Nat.div_le_self _ _) duration.representable

/-- Create a negotiated timer. -/
def new (intervalSeconds minimumSeconds : UInt32) (refresher : Refresher) (now : Duration) :
    Except SessionTimerError SessionTimer :=
  if intervalSeconds = 0 ∨ minimumSeconds = 0 then
    .error .zeroInterval
  else if intervalSeconds < minimumSeconds then
    .error .belowMinimum
  else
    let interval := Duration.fromSecs intervalSeconds
    match now.checkedAdd interval with
    | none => .error .timeOverflow
    | some expiresAt =>
      match now.checkedAdd (half interval) with
      | none => .error .timeOverflow
      | some refreshAt =>
        .ok {
          interval := interval
          minimum := .fromSecs minimumSeconds
          refresher := refresher
          refreshAt := refreshAt
          expiresAt := expiresAt
          active := true
          refreshing := false
          refreshCount := 0
          failedRefreshes := 0 }

/-- Evaluate refresh and expiry. -/
def action (timer : SessionTimer) (now : Duration) : SessionTimerAction :=
  if ¬timer.active then
    .none
  else if timer.expiresAt.asNanos ≤ now.asNanos then
    .expired
  else if timer.refresher = .local_ ∧ ¬timer.refreshing ∧ timer.refreshAt.asNanos ≤ now.asNanos then
    .refresh
  else
    .none

/-- Refresh both deadlines after a successful negotiation. -/
def refreshed (timer : SessionTimer) (now : Duration) :
    SessionTimer × Except SessionTimerError Unit :=
  match now.checkedAdd timer.interval with
  | none => (timer, .error .timeOverflow)
  | some expiresAt =>
    let timer := { timer with expiresAt := expiresAt }
    match now.checkedAdd (half timer.interval) with
    | none => (timer, .error .timeOverflow)
    | some refreshAt =>
      let timer := { timer with refreshAt := refreshAt }
      if timer.refreshCount < maxRefreshCounter then
        ({ timer with
            refreshCount := timer.refreshCount + 1
            refreshing := false }, .ok ())
      else
        -- the new deadlines stay
        (timer, .error .counterExhausted)

/-- Mark a local refresh request in flight exactly once. -/
def startRefresh (timer : SessionTimer) : SessionTimer × Bool :=
  if ¬timer.active ∨ timer.refresher ≠ .local_ ∨ timer.refreshing then (timer, false)
  else ({ timer with refreshing := true }, true)

/-- Record a failed refresh attempt. -/
def failRefresh (timer : SessionTimer) : SessionTimer × Except SessionTimerError Unit :=
  if ¬timer.refreshing then
    (timer, .error .refreshNotActive)
  else
    let timer := { timer with refreshing := false }
    if timer.failedRefreshes < maxRefreshCounter then
      ({ timer with failedRefreshes := timer.failedRefreshes + 1 }, .ok ())
    else
      -- no refresh is in flight any more
      (timer, .error .counterExhausted)

/-- Permanently deactivate the timer. -/
def deactivate (timer : SessionTimer) : SessionTimer :=
  { timer with active := false, refreshing := false }

end SessionTimer

/-- A call on a timer. -/
inductive TimerCall
  | startRefresh
  | failRefresh
  | refreshed (now : Duration)
  | deactivate

namespace SessionTimer

variable {timer : SessionTimer}

/-- One call; those that cannot fail return nothing. -/
def step (timer : SessionTimer) : TimerCall → SessionTimer × Except SessionTimerError Unit
  | .startRefresh => (timer.startRefresh.1, .ok ())
  | .failRefresh => timer.failRefresh
  | .refreshed now => timer.refreshed now
  | .deactivate => (timer.deactivate, .ok ())

/-- The deadlines are half an interval apart. -/
def Spaced (timer : SessionTimer) : Prop := timer.expiresAt.asNanos + timer.interval.asNanos / 2 =
    timer.refreshAt.asNanos + timer.interval.asNanos

instance (timer : SessionTimer) : Decidable timer.Spaced := inferInstanceAs (Decidable (_ = _))

theorem checkedAdd_eq_some {first second sum : Duration}
    (added : first.checkedAdd second = some sum) :
    sum.asNanos = first.asNanos + second.asNanos := by
  unfold Duration.checkedAdd Duration.ofNanos at added
  split_ifs at added
  cases added
  rfl

theorem checkedAdd_eq_none {first second : Duration} (overflow : first.checkedAdd second = none) :
    maxDurationNanos < first.asNanos + second.asNanos := by
  unfold Duration.checkedAdd Duration.ofNanos at overflow
  split_ifs at overflow with representable
  exact Nat.lt_of_not_le representable

/-- Where the expiry is representable, so is the refresh. -/
theorem checkedAdd_half {now interval expiresAt : Duration}
    (added : now.checkedAdd interval = some expiresAt) :
    ∃ refreshAt, now.checkedAdd (half interval) = some refreshAt ∧
      expiresAt.asNanos + interval.asNanos / 2 = refreshAt.asNanos + interval.asNanos := by
  have expires := checkedAdd_eq_some added
  rcases halfway : now.checkedAdd (half interval) with _ | refreshAt
  · have overflow := checkedAdd_eq_none halfway
    have bound := expiresAt.representable
    simp only [half] at overflow
    omega
  · have refresh := checkedAdd_eq_some halfway
    simp only [half] at refresh
    exact ⟨refreshAt, rfl, by omega⟩

/-- What a successful negotiation does: nothing, both deadlines and the rest, or only the
deadlines. -/
theorem refreshed_cases (timer : SessionTimer) (now : Duration) :
    (now.checkedAdd timer.interval = none ∧ timer.refreshed now = (timer, .error .timeOverflow)) ∨
      ∃ expiresAt refreshAt, now.checkedAdd timer.interval = some expiresAt ∧
        expiresAt.asNanos + timer.interval.asNanos / 2 =
          refreshAt.asNanos + timer.interval.asNanos ∧
        ((timer.refreshCount < maxRefreshCounter ∧ timer.refreshed now =
              ({ timer with
                  expiresAt := expiresAt
                  refreshAt := refreshAt
                  refreshCount := timer.refreshCount + 1
                  refreshing := false }, .ok ())) ∨
          (¬timer.refreshCount < maxRefreshCounter ∧ timer.refreshed now =
              ({ timer with expiresAt := expiresAt, refreshAt := refreshAt },
                .error .counterExhausted))) := by
  rcases added : now.checkedAdd timer.interval with _ | expiresAt
  · left
    simp [refreshed, added]
  · right
    obtain ⟨refreshAt, halfway, spaced⟩ := checkedAdd_half added
    refine ⟨expiresAt, refreshAt, rfl, spaced, ?_⟩
    by_cases room : timer.refreshCount < maxRefreshCounter
    · left
      simp [refreshed, added, halfway, room]
    · right
      simp [refreshed, added, halfway, room]

theorem spaced_step (spaced : timer.Spaced) (call : TimerCall) :
    (timer.step call).1.Spaced := by
  cases call with
  | startRefresh =>
    simp only [step, startRefresh]
    split_ifs <;> exact spaced
  | failRefresh =>
    simp only [step, failRefresh]
    split_ifs <;> exact spaced
  | refreshed now =>
    simp only [step]
    rcases timer.refreshed_cases now with ⟨-, result⟩ |
      ⟨expiresAt, refreshAt, -, apart, ⟨-, result⟩ | ⟨-, result⟩⟩
    · rw [result]
      exact spaced
    · rw [result]
      exact apart
    · rw [result]
      exact apart
  | deactivate => exact spaced

theorem inactive_step (inactive : timer.active = false)
    (call : TimerCall) : (timer.step call).1.active = false := by
  cases call with
  | startRefresh =>
    simp only [step, startRefresh]
    split_ifs <;> exact inactive
  | failRefresh =>
    simp only [step, failRefresh]
    split_ifs <;> exact inactive
  | refreshed now =>
    simp only [step]
    rcases timer.refreshed_cases now with ⟨-, result⟩ |
      ⟨expiresAt, refreshAt, -, -, ⟨-, result⟩ | ⟨-, result⟩⟩ <;>
    · rw [result]
      exact inactive
  | deactivate => rfl

/-- A call that fails changes nothing. -/
def Atomic (timer : SessionTimer) (call : TimerCall) : Prop :=
  ∀ error, (timer.step call).2 = .error error → (timer.step call).1 = timer

/-- A counter is exhausted where a call has something to change. -/
def Exhausted (timer : SessionTimer) : TimerCall → Prop
  | .refreshed now =>
    timer.refreshCount = maxRefreshCounter ∧
      ∃ expiresAt, now.checkedAdd timer.interval = some expiresAt ∧ expiresAt ≠ timer.expiresAt
  | .failRefresh => timer.refreshing = true ∧ timer.failedRefreshes = maxRefreshCounter
  | _ => False

/-- The counters are those of 32-bit words. -/
structure Counted (timer : SessionTimer) : Prop where
  refreshes : timer.refreshCount ≤ maxRefreshCounter
  failures : timer.failedRefreshes ≤ maxRefreshCounter

theorem counted_step (counted : timer.Counted) (call : TimerCall) :
    (timer.step call).1.Counted := by
  obtain ⟨refreshes, failures⟩ := counted
  cases call with
  | startRefresh =>
    simp only [step, startRefresh]
    split_ifs <;> exact ⟨refreshes, failures⟩
  | failRefresh =>
    simp only [step, failRefresh]
    split_ifs with busy room
    · exact ⟨refreshes, room⟩
    · exact ⟨refreshes, failures⟩
    · exact ⟨refreshes, failures⟩
  | refreshed now =>
    simp only [step]
    rcases timer.refreshed_cases now with ⟨-, result⟩ |
      ⟨expiresAt, refreshAt, -, -, ⟨room, result⟩ | ⟨-, result⟩⟩
    · rw [result]
      exact ⟨refreshes, failures⟩
    · rw [result]
      exact ⟨room, failures⟩
    · rw [result]
      exact ⟨refreshes, failures⟩
  | deactivate => exact ⟨refreshes, failures⟩

/-- A call is atomic exactly when it does not meet an exhausted counter. -/
theorem atomic_iff (spaced : timer.Spaced) (counted : timer.Counted)
    (call : TimerCall) : timer.Atomic call ↔ ¬timer.Exhausted call := by
  cases call with
  | startRefresh => exact iff_of_true (fun _ failed => by cases failed) fun holds => holds
  | failRefresh =>
    simp only [Atomic, Exhausted, step, failRefresh]
    by_cases idle : ¬timer.refreshing = true
    · rw [if_pos idle]
      exact iff_of_true (fun _ _ => rfl) fun exhausted => idle exhausted.1
    rw [if_neg idle]
    rw [not_not] at idle
    by_cases room : timer.failedRefreshes < maxRefreshCounter
    · rw [if_pos room]
      refine iff_of_true (fun _ failed => by cases failed) ?_
      rintro ⟨-, full⟩
      omega
    · rw [if_neg room]
      have full : timer.failedRefreshes = maxRefreshCounter :=
        Nat.le_antisymm counted.failures (Nat.le_of_not_lt room)
      refine iff_of_false ?_ (not_not.mpr ⟨idle, full⟩)
      intro unchanged
      have still := congrArg SessionTimer.refreshing (unchanged _ rfl)
      rw [idle] at still
      cases still
  | refreshed now =>
    simp only [Atomic, Exhausted, step]
    rcases timer.refreshed_cases now with ⟨overflow, result⟩ |
      ⟨expiresAt, refreshAt, added, apart, ⟨room, result⟩ | ⟨noRoom, result⟩⟩
    · rw [result]
      refine iff_of_true (fun _ _ => rfl) ?_
      rintro ⟨-, expiresAt, added, -⟩
      cases overflow.symm.trans added
    · rw [result]
      refine iff_of_true (fun _ failed => by cases failed) ?_
      rintro ⟨full, -⟩
      omega
    · rw [result]
      have full : timer.refreshCount = maxRefreshCounter :=
        Nat.le_antisymm counted.refreshes (Nat.le_of_not_lt noRoom)
      constructor
      · rintro unchanged ⟨-, other, sameAdded, different⟩
        cases added.symm.trans sameAdded
        exact different (congrArg SessionTimer.expiresAt (unchanged _ rfl))
      · intro unexhausted error _
        have sameExpiry : expiresAt = timer.expiresAt := by
          by_contra different
          exact unexhausted ⟨full, expiresAt, added, different⟩
        have sameRefresh : refreshAt = timer.refreshAt := by
          unfold Spaced at spaced
          rw [sameExpiry] at apart
          have nanos : refreshAt.asNanos = timer.refreshAt.asNanos := by omega
          cases refreshAt
          cases refreshing : timer.refreshAt
          simp_all
        rw [sameExpiry, sameRefresh]
  | deactivate => exact iff_of_true (fun _ failed => by cases failed) fun holds => holds

/-- What a run of calls keeps: deadlines half an interval apart, silence after the timer
was deactivated, and calls that change nothing when they fail. -/
structure Keeps (timer : SessionTimer) (calls : List TimerCall) : Prop where
  ordered : ∀ earlier later, calls = earlier ++ later →
    (after step timer earlier).refreshAt.asNanos ≤
        (after step timer earlier).expiresAt.asNanos ∧
      (after step timer earlier).interval.asNanos / 2 ≤
        (after step timer earlier).expiresAt.asNanos - (after step timer earlier).refreshAt.asNanos
  silent : ∀ earlier later, calls = earlier ++ later → .deactivate ∈ earlier →
    ∀ now, (after step timer earlier).action now = .none
  atomic : AllSteps (fun earlier call => (after step timer earlier).Atomic call) calls

theorem new_spec
    {intervalSeconds minimumSeconds : UInt32} {refresher : Refresher} {now : Duration}
    (created : new intervalSeconds minimumSeconds refresher now = .ok timer) :
    timer.Spaced ∧ timer.Counted := by
  unfold new at created
  split_ifs at created
  dsimp only at created
  rcases added : now.checkedAdd (.fromSecs intervalSeconds) with _ | expiresAt
  · rw [added] at created
    cases created
  · obtain ⟨refreshAt, halfway, apart⟩ := checkedAdd_half added
    rw [added, halfway] at created
    cases created
    exact ⟨apart, Nat.zero_le _, Nat.zero_le _⟩

theorem inactive_of_mem
    (timer : SessionTimer) {calls : List TimerCall} (deactivated : .deactivate ∈ calls) :
    (after step timer calls).active = false := by
  obtain ⟨earlier, later, rfl⟩ := List.append_of_mem deactivated
  rw [after_append, after_cons]
  apply invariant (fun timer : SessionTimer => timer.active = false)
  · rfl
  · intro timer call inactive
    exact inactive_step inactive call

/-- A run keeps all of this exactly when no call meets an exhausted counter. -/
theorem session_timer_keeps_iff
    {intervalSeconds minimumSeconds : UInt32} {refresher : Refresher} {now : Duration}
    {timer : SessionTimer} (created : new intervalSeconds minimumSeconds refresher now = .ok timer)
    (calls : List TimerCall) :
    Keeps timer calls ↔
      AllSteps (fun earlier call => ¬(after step timer earlier).Exhausted call) calls := by
  obtain ⟨spaced, counted⟩ := new_spec created
  have reached : ∀ calls, (after step timer calls).Spaced ∧ (after step timer calls).Counted := by
    intro calls
    apply invariant (fun timer : SessionTimer => timer.Spaced ∧ timer.Counted)
    · exact ⟨spaced, counted⟩
    · rintro timer call ⟨spaced, counted⟩
      exact ⟨spaced_step spaced call, counted_step counted call⟩
  have steps := allSteps_congr
    (fun earlier call => atomic_iff (reached earlier).1 (reached earlier).2 call) calls
  constructor
  · intro keeps
    exact steps.mp keeps.atomic
  · intro unexhausted
    refine ⟨?_, ?_, steps.mpr unexhausted⟩
    · intro earlier later _
      have apart := (reached earlier).1
      unfold Spaced at apart
      omega
    · intro earlier later _ deactivated now
      simp [action, inactive_of_mem timer deactivated]

/-- A session of a hundred seconds. -/
def sampleTimer : SessionTimer where
  interval := .fromSecs 100
  minimum := .fromSecs 90
  refresher := .local_
  refreshAt := .fromSecs 50
  expiresAt := .fromSecs 100
  active := true
  refreshing := false
  refreshCount := 0
  failedRefreshes := 0

theorem sampleTimer_created :
    new 100 90 .local_ (.fromSecs 0) = .ok sampleTimer := by
  decide +kernel

theorem session_timer_keeps_iff_sampleTimer :
    Keeps sampleTimer [.startRefresh, .failRefresh] ↔
      AllSteps (fun earlier call => ¬(after step sampleTimer earlier).Exhausted call)
        [.startRefresh, .failRefresh] :=
  session_timer_keeps_iff sampleTimer_created _

theorem refreshed_sampleTimer {count : Nat} (room : count < maxRefreshCounter) :
    { sampleTimer with refreshCount := count }.step (.refreshed (.fromSecs 0)) =
      ({ sampleTimer with refreshCount := count + 1 }, .ok ()) := by
  have expires : (Duration.fromSecs 0).checkedAdd (.fromSecs 100) = some (.fromSecs 100) := by
    decide +kernel
  have refreshes : (Duration.fromSecs 0).checkedAdd (half (.fromSecs 100)) =
      some (.fromSecs 50) := by
    decide +kernel
  simp only [step, refreshed, sampleTimer, expires, refreshes, if_pos room]

/-- Refreshes at time zero only count. -/
theorem after_refreshes {count : Nat} (room : count ≤ maxRefreshCounter) :
    after step sampleTimer (List.replicate count (.refreshed (.fromSecs 0))) =
      { sampleTimer with refreshCount := count } := by
  induction count with
  | zero => rfl
  | succ count ih =>
    rw [List.replicate_succ', after_append, ih (Nat.le_of_succ_le room)]
    simp only [after_cons, after_nil, refreshed_sampleTimer room]

/-- As many refreshes as the counter has room for, and one more a second later. -/
def exhaustingCalls : List TimerCall :=
  List.replicate maxRefreshCounter (.refreshed (.fromSecs 0)) ++ [.refreshed (.fromSecs 1)]

/-- The last refresh fails and moves both deadlines. -/
theorem not_keeps_exhaustingCalls :
    new 100 90 .local_ (.fromSecs 0) = .ok sampleTimer ∧ ¬Keeps sampleTimer exhaustingCalls := by
  refine ⟨sampleTimer_created, ?_⟩
  intro keeps
  have last : (after step sampleTimer
      (List.replicate maxRefreshCounter (.refreshed (.fromSecs 0)))).Atomic
        (.refreshed (.fromSecs 1)) := keeps.atomic _ _ [] rfl
  rw [after_refreshes (Nat.le_refl _), atomic_iff (by decide +kernel)
    ⟨Nat.le_refl _, Nat.zero_le _⟩] at last
  apply last
  refine ⟨rfl, .fromSecs 101, ?_, ?_⟩
  · decide +kernel
  · decide +kernel

end SessionTimer
end Dialog
end LiveAISIP
