import Mathlib.Algebra.Group.Nat.Defs
import Mathlib.Data.List.Basic
import Mathlib.Order.MinMax
import Mathlib.Tactic.SplitIfs

/-!
# Transaction timers

Durations, validated base timers and derived timer profiles of
`sip/transaction/timer.rs`.  A duration is a count of nanoseconds that fits
the seconds and nanoseconds of the standard library's type; sums and products
are checked against that bound.
-/

namespace LiveAISIP
namespace Transaction

/-- Largest representable duration, in nanoseconds. -/
def maxDurationNanos : Nat := 2 ^ 64 * 10 ^ 9 - 1

/-- A span of time. -/
structure Duration where
  asNanos : Nat
  representable : asNanos ≤ maxDurationNanos
  deriving DecidableEq

namespace Duration

/-- A nanosecond count as a duration, when it is representable. -/
def ofNanos (nanos : Nat) : Option Duration :=
  if representable : nanos ≤ maxDurationNanos then some ⟨nanos, representable⟩
  else none

/-- Checked addition. -/
def checkedAdd (left right : Duration) : Option Duration := ofNanos (left.asNanos + right.asNanos)

/-- Checked multiplication by an integer. -/
def checkedMul (duration : Duration) (factor : Nat) : Option Duration :=
  ofNanos (duration.asNanos * factor)

/-- The longest duration. -/
def max : Duration := ⟨maxDurationNanos, Nat.le_refl _⟩

/-- The shorter of two durations. -/
def min (left right : Duration) : Duration :=
  if left.asNanos ≤ right.asNanos then left else right

/-- A duration of at most 2^32 milliseconds. -/
def fromMillis (millis : UInt32) : Duration where
  asNanos := millis.toNat * 10 ^ 6
  representable := by
    have bound := millis.toNat_lt
    simp only [maxDurationNanos]
    omega

/-- A duration of at most 2^32 seconds. -/
def fromSecs (secs : UInt32) : Duration where
  asNanos := secs.toNat * 10 ^ 9
  representable := by
    have bound := secs.toNat_lt
    simp only [maxDurationNanos]
    omega

theorem ofNanos_isSome (nanos : Nat) :
    (ofNanos nanos).isSome ↔ nanos ≤ maxDurationNanos := by
  simp only [ofNanos]
  split_ifs with representable <;> simp [representable]

end Duration

/-- Minimum operational T1. -/
def minT1 : Duration := .fromMillis 100

/-- Maximum operational base timer. -/
def maxBaseTimer : Duration := .fromSecs 30

/-- Invalid transaction timer configuration. -/
inductive TimerError
  | invalidT1
  | invalidT2
  | invalidT4
  | derivedOverflow

/-- Base transaction timers within their operational ranges. -/
structure TimerConfig where
  t1 : Duration
  t2 : Duration
  t4 : Duration
  t1_lower : minT1.asNanos ≤ t1.asNanos
  t1_upper : t1.asNanos ≤ maxBaseTimer.asNanos
  t2_lower : t1.asNanos ≤ t2.asNanos
  t2_upper : t2.asNanos ≤ maxBaseTimer.asNanos
  t4_lower : t1.asNanos ≤ t4.asNanos
  t4_upper : t4.asNanos ≤ maxBaseTimer.asNanos

/-- Derived transaction timing behavior. -/
structure TimerProfile where
  retransmitInitial : Option Duration
  retransmitMaximum : Option Duration
  inviteTimeout : Duration
  nonInviteTimeout : Duration
  completedInviteLinger : Option Duration
  confirmedInviteLinger : Option Duration
  completedNonInviteLinger : Option Duration
  serverNonInviteLifetime : Option Duration

namespace TimerConfig

/-- Create and validate a base timer profile. -/
def new (t1 t2 t4 : Duration) : Except TimerError TimerConfig :=
  if first : t1.asNanos < minT1.asNanos ∨ t1.asNanos > maxBaseTimer.asNanos then
    .error .invalidT1
  else if second : t2.asNanos < t1.asNanos ∨ t2.asNanos > maxBaseTimer.asNanos then
    .error .invalidT2
  else if fourth : t4.asNanos < t1.asNanos ∨ t4.asNanos > maxBaseTimer.asNanos then
    .error .invalidT4
  else if (t1.checkedMul 64).isNone then
    .error .derivedOverflow
  else
    .ok ⟨t1, t2, t4, by omega, by omega, by omega, by omega, by omega, by omega⟩

/-- The default base timers of 500 ms, 4 s and 5 s. -/
def default : TimerConfig where
  t1 := .fromMillis 500
  t2 := .fromSecs 4
  t4 := .fromSecs 5
  t1_lower := by decide
  t1_upper := by decide
  t2_lower := by decide
  t2_upper := by decide
  t4_lower := by decide
  t4_upper := by decide

/-- The complete derived profile for a transport class. -/
def profile (config : TimerConfig) (reliable : Bool) : TimerProfile :=
  let sixtyFourT1 := (config.t1.checkedMul 64).getD .max
  { retransmitInitial := if reliable then none else some config.t1
    retransmitMaximum := if reliable then none else some config.t2
    inviteTimeout := sixtyFourT1
    nonInviteTimeout := sixtyFourT1
    completedInviteLinger := if reliable then none else some (.fromSecs 32)
    confirmedInviteLinger := if reliable then none else some config.t4
    completedNonInviteLinger := if reliable then none else some config.t4
    serverNonInviteLifetime := if reliable then none else some sixtyFourT1 }

/-- The derived deadlines are never saturated: 64 T1 is representable for
every operational T1. -/
theorem sixtyFourT1_representable (config : TimerConfig) :
    (config.t1.checkedMul 64).isSome := by
  have upper := config.t1_upper
  rw [Duration.checkedMul, Duration.ofNanos_isSome]
  simp only [maxBaseTimer, Duration.fromSecs, maxDurationNanos] at upper ⊢
  have bound : (30 : UInt32).toNat = 30 := rfl
  omega

end TimerConfig

namespace TimerProfile

/-- The next Timer A interval: it doubles without a cap. -/
def nextInviteClientRetransmit
    (profile : TimerProfile) (current : Duration) : Option Duration :=
  match profile.retransmitInitial with
  | none => none
  | some _ => current.checkedMul 2

/-- Twice an interval, capped at a maximum. -/
def doubledUpTo (maximum current : Duration) : Duration :=
  ((current.checkedMul 2).getD maximum).min maximum

/-- The next Timer E interval: it doubles up to T2, and is T2 once a
provisional response arrived. -/
def nextNonInviteClientRetransmit
    (profile : TimerProfile) (current : Duration) (proceeding : Bool) : Option Duration :=
  match profile.retransmitMaximum with
  | none => none
  | some maximum =>
    if proceeding then some maximum else some (doubledUpTo maximum current)

/-- The next Timer G interval: it doubles up to T2. -/
def nextInviteServerRetransmit
    (profile : TimerProfile) (current : Duration) : Option Duration :=
  match profile.retransmitMaximum with
  | none => none
  | some maximum => some (doubledUpTo maximum current)

end TimerProfile

end Transaction
end LiveAISIP
