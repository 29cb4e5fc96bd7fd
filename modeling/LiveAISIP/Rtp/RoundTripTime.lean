import LiveAISIP.Rtp.SenderReports
import Mathlib.Data.UInt

/-!
# Round-trip time

The estimator of `rtp/stats/rtt.rs`.  A sender names its time in a sender report; the
peer returns the middle bits of it with the time it held the report, in units of
1/65536 s.  What remains of the time between is the time that the packets travelled,
up to two units, as three times are cut to whole units.
-/

namespace LiveAISIP
namespace Rtp

open Outcome

open Transaction (Duration maxDurationNanos)
open RtpSession

variable {info : RtcpSenderInfo} {maximum : Duration}

/-- Compact units per second. -/
def compactNtpUnitsPerSecond : Nat := 65536

/-- The middle 32 bits of an NTP timestamp. -/
structure CompactNtp where
  asRaw : UInt32

namespace CompactNtp

/-- The compact timestamp of a time since the epoch.  Whole seconds wrap at 16 bits. -/
def fromDuration (value : Duration) : CompactNtp :=
  let lowSeconds := value.asNanos / 10 ^ 9 % 2 ^ 16
  let fractional := value.asNanos % 10 ^ 9 * compactNtpUnitsPerSecond / 10 ^ 9
  let fractional := if fractional < 2 ^ 16 then fractional else 2 ^ 16 - 1
  ⟨(lowSeconds <<< 16 ||| fractional).toUInt32⟩

/-- The units between two compact timestamps. -/
def wrappingElapsedSince (later earlier : CompactNtp) : UInt32 := later.asRaw - earlier.asRaw

end CompactNtp

/-- The 64-bit NTP form of a time: seconds and a binary fraction, 32 bits each. -/
def ntpTimestamp (value : Duration) : UInt64 :=
  let seconds := value.asNanos / 10 ^ 9 % 2 ^ 32
  let fraction := value.asNanos % 10 ^ 9 * 2 ^ 32 / 10 ^ 9
  (seconds <<< 32 ||| fraction).toUInt64

/-- Result of evaluating one round-trip opportunity. -/
inductive RttUpdate
  | noSenderReport
  | invalidReceiverDelay (elapsedUnits delayUnits : UInt32)
  | outOfRange (sample maximum : Duration)
  | sampled (rtt : Duration)
  deriving DecidableEq

/-- Estimator configuration failure. -/
inductive RttError
  | zeroMaximum
  | durationTooLarge
  deriving DecidableEq

/-- A duration in whole compact units. -/
def durationToUnits (value : Duration) : Except RttError UInt32 := do
  let whole := value.asNanos / 10 ^ 9 * compactNtpUnitsPerSecond
  ensure (whole < 2 ^ 64) .durationTooLarge
  let fractional := value.asNanos % 10 ^ 9 * compactNtpUnitsPerSecond / 10 ^ 9
  let total := whole + fractional
  ensure (total < 2 ^ 64) .durationTooLarge
  ensure (total < 2 ^ 32) .durationTooLarge
  return total.toUInt32

/-- The nanoseconds of so many compact units. -/
def unitsToNanos (units : UInt32) : Nat :=
  let seconds := units.toNat / compactNtpUnitsPerSecond
  let fraction := units.toNat % compactNtpUnitsPerSecond
  let nanos := fraction * 10 ^ 9 / compactNtpUnitsPerSecond
  seconds * 10 ^ 9 + nanos

theorem unitsToNanos_eq (units : UInt32) :
    unitsToNanos units = units.toNat * 10 ^ 9 / 65536 := by
  rw [unitsToNanos, compactNtpUnitsPerSecond]
  omega

/-- The duration of so many compact units. -/
def unitsToDuration (units : UInt32) : Duration where
  asNanos := unitsToNanos units
  representable := by
    have small := units.toNat_lt
    rw [unitsToNanos_eq, maxDurationNanos]
    omega

/-- The bounded integer estimator. -/
structure RttEstimator where
  maximumUnits : UInt32
  smoothedQ3 : Nat
  lastUnits : Option UInt32
  minimumUnits : Option UInt32
  maximumObservedUnits : Option UInt32
  samples : Nat
  rejectedSamples : Nat
  deriving DecidableEq

namespace RttEstimator

/-- No samples yet. -/
def empty (maximumUnits : UInt32) : RttEstimator where
  maximumUnits := maximumUnits
  smoothedQ3 := 0
  lastUnits := none
  minimumUnits := none
  maximumObservedUnits := none
  samples := 0
  rejectedSamples := 0

/-- The default ceiling of a sample. -/
def defaultMaximumRtt : Duration := ⟨60 * 10 ^ 9, by decide⟩

/-- An estimator with the default ceiling. -/
def new : RttEstimator := empty ((durationToUnits defaultMaximumRtt).toOption.getD (2 ^ 32 - 1))

/-- An estimator with its own ceiling. -/
def withMaximum (maximum : Duration) : Except RttError RttEstimator := do
  let maximumUnits ← durationToUnits maximum
  ensure (maximumUnits ≠ 0) .zeroMaximum
  return empty maximumUnits

/-- Count a sample that is refused. -/
def reject (estimator : RttEstimator) : RttEstimator :=
  { estimator with rejectedSamples := saturatingAdd estimator.rejectedSamples 1 }

/-- The smoothed value after one more sample. -/
def smooth (estimator : RttEstimator) (sampleUnits : UInt32) : Nat :=
  if estimator.samples = 0 then sampleUnits.toNat <<< 3
  else
    let decay := saturatingAdd estimator.smoothedQ3 4 >>> 3
    saturatingAdd estimator.smoothedQ3 sampleUnits.toNat - decay

/-- Take a sample. -/
def accept (estimator : RttEstimator) (sampleUnits : UInt32) : RttEstimator :=
  { estimator with
    smoothedQ3 := estimator.smooth sampleUnits
    lastUnits := some sampleUnits
    minimumUnits := some
      (estimator.minimumUnits.elim sampleUnits fun current => min current sampleUnits)
    maximumObservedUnits := some
      (estimator.maximumObservedUnits.elim sampleUnits fun current => max current sampleUnits)
    samples := saturatingAdd estimator.samples 1 }

/-- Process the arrival of a report block: arrival, less the time of the sender report,
less the delay since it came. -/
def observe
    (estimator : RttEstimator) (arrival : CompactNtp)
    (lastSenderReport delaySinceLastSenderReport : UInt32) : RttEstimator × RttUpdate :=
  if lastSenderReport = 0 then (estimator, .noSenderReport)
  else
    let elapsed := arrival.wrappingElapsedSince ⟨lastSenderReport⟩
    if elapsed ≤ delaySinceLastSenderReport then
      (estimator.reject, .invalidReceiverDelay elapsed delaySinceLastSenderReport)
    else
      let sampleUnits := elapsed - delaySinceLastSenderReport
      if estimator.maximumUnits < sampleUnits then
        (estimator.reject,
          .outOfRange (unitsToDuration sampleUnits) (unitsToDuration estimator.maximumUnits))
      else (estimator.accept sampleUnits, .sampled (unitsToDuration sampleUnits))

/-- Clear the measurements, but not the ceiling. -/
def reset (estimator : RttEstimator) : RttEstimator := empty estimator.maximumUnits

end RttEstimator

/-- A call on the estimator. -/
inductive RttCall
  | observe (arrival : CompactNtp) (lastSenderReport delaySinceLastSenderReport : UInt32)
  | reset

/-- Make one call. -/
def RttEstimator.step (estimator : RttEstimator) : RttCall → RttEstimator × Option RttUpdate
  | .observe arrival lastSenderReport delay =>
    ((estimator.observe arrival lastSenderReport delay).1,
      some (estimator.observe arrival lastSenderReport delay).2)
  | .reset => (estimator.reset, none)

/-- The whole compact units of a time. -/
def wholeUnits (nanos : Nat) : Nat := 65536 * nanos / 10 ^ 9

theorem wholeUnits_eq (nanos : Nat) :
    wholeUnits nanos = nanos / 10 ^ 9 * 65536 + nanos % 10 ^ 9 * 65536 / 10 ^ 9 := by
  rw [wholeUnits]
  omega

/-- The whole units of a sum are those of its parts, or one more. -/
theorem wholeUnits_add (first second : Nat) :
    wholeUnits first + wholeUnits second ≤ wholeUnits (first + second) ∧
      wholeUnits (first + second) ≤ wholeUnits first + wholeUnits second + 1 := by
  rw [wholeUnits, wholeUnits, wholeUnits]
  omega

/-- Less than a wrap of the format goes by in less than a wrap of time. -/
theorem wholeUnits_add_lt
    (first : Nat) {second : Nat} (short : 65536 * second ≤ (2 ^ 32 - 1) * 10 ^ 9) :
    wholeUnits (first + second) < wholeUnits first + 2 ^ 32 := by
  rw [wholeUnits, wholeUnits]
  omega

theorem toNat_fromDuration (value : Duration) :
    (CompactNtp.fromDuration value).asRaw.toNat = wholeUnits value.asNanos % 2 ^ 32 := by
  have small : value.asNanos % 10 ^ 9 * 65536 / 10 ^ 9 < 2 ^ 16 := by omega
  rw [CompactNtp.fromDuration, compactNtpUnitsPerSecond, if_pos small,
    ← Nat.shiftLeft_add_eq_or_of_lt small, Nat.shiftLeft_eq, Nat.toUInt32_eq,
    UInt32.toNat_ofNat', wholeUnits_eq]
  omega

/-- The middle bits of the 64-bit form are the whole units. -/
theorem toNat_compactNtp {sentAt : Duration}
    (stamped : info.ntpTimestamp = ntpTimestamp sentAt) :
    (compactNtp info).toNat = wholeUnits sentAt.asNanos % 2 ^ 32 := by
  have small : sentAt.asNanos % 10 ^ 9 * 2 ^ 32 / 10 ^ 9 < 2 ^ 32 := by omega
  have middle : sentAt.asNanos % 10 ^ 9 * 2 ^ 32 / 10 ^ 9 / 2 ^ 16 =
      sentAt.asNanos % 10 ^ 9 * 65536 / 10 ^ 9 := by
    rw [Nat.div_right_comm]
    exact congrArg (· / 10 ^ 9) (by omega)
  rw [compactNtp, stamped, ntpTimestamp, ← Nat.shiftLeft_add_eq_or_of_lt small,
    Nat.shiftLeft_eq, wholeUnits_eq, ← middle, UInt64.toNat_toUInt32, UInt64.toNat_shiftRight,
    Nat.toUInt64_eq, UInt64.toNat_ofNat', Nat.shiftRight_eq_div_pow]
  generalize sentAt.asNanos / 10 ^ 9 = seconds
  generalize sentAt.asNanos % 10 ^ 9 * 2 ^ 32 / 10 ^ 9 = fraction at small ⊢
  change _ / 2 ^ 16 % 2 ^ 32 = _
  omega

theorem toNat_of_durationToUnits
    {value : Duration} {units : UInt32} (converted : durationToUnits value = .ok units) :
    units.toNat = wholeUnits value.asNanos := by
  obtain ⟨_, _, converted⟩ := bind_eq_ok.mp converted
  obtain ⟨_, _, converted⟩ := bind_eq_ok.mp converted
  obtain ⟨_, small, converted⟩ := bind_eq_ok.mp converted
  have fits := ensure_eq_ok.mp small
  cases converted
  rw [compactNtpUnitsPerSecond] at fits
  rw [compactNtpUnitsPerSecond, Nat.toUInt32_eq, UInt32.toNat_ofNat', Nat.mod_eq_of_lt fits,
    wholeUnits_eq]

theorem maximumUnits_step (estimator : RttEstimator) (call : RttCall) :
    (estimator.step call).1.maximumUnits = estimator.maximumUnits := by
  cases call with
  | reset => rfl
  | observe arrival lastSenderReport delay =>
    change (estimator.observe arrival lastSenderReport delay).1.maximumUnits = _
    rw [RttEstimator.observe]
    dsimp only
    split_ifs <;> rfl

/-- No call moves the ceiling. -/
theorem maximumUnits_run {fresh : RttEstimator}
    (created : RttEstimator.withMaximum maximum = .ok fresh) (calls : List RttCall) :
    (Run.after RttEstimator.step fresh calls).maximumUnits.toNat = wholeUnits maximum.asNanos := by
  obtain ⟨units, converted, created⟩ := bind_eq_ok.mp created
  obtain ⟨_, _, created⟩ := bind_eq_ok.mp created
  cases created
  rw [← toNat_of_durationToUnits converted]
  refine congrArg UInt32.toNat ?_
  refine Run.invariant (fun estimator : RttEstimator => estimator.maximumUnits = units) rfl ?_ calls
  intro estimator call kept
  rw [maximumUnits_step, kept]

/-- The estimator with the default ceiling is the one that is given it. -/
theorem withMaximum_default :
    RttEstimator.withMaximum RttEstimator.defaultMaximumRtt = .ok RttEstimator.new := by
  decide

/-- A sender report on its way out, held by the peer, and on its way back in a report
block. -/
structure Exchange where
  sentAt : Duration
  outward : Duration
  held : Duration
  back : Duration
  arrivalAt : Duration
  arrives : arrivalAt.asNanos = sentAt.asNanos + (outward.asNanos + held.asNanos + back.asNanos)

namespace Exchange

/-- The time between the sender report and the arrival of the report block. -/
def total (exchange : Exchange) : Nat :=
  exchange.outward.asNanos + exchange.held.asNanos + exchange.back.asNanos

/-- The time that the packets travelled. -/
def travelled (exchange : Exchange) : Nat := exchange.outward.asNanos + exchange.back.asNanos

end Exchange

/-- A result measures a time within two units, in nanoseconds scaled by the units of a
second. -/
def Measures (maximum : Duration) (travelled : Nat) : RttUpdate → Prop
  | .noSenderReport => False
  | .invalidReceiverDelay _ _ => 65536 * travelled < 2 * 10 ^ 9
  | .outOfRange _ _ => 65536 * maximum.asNanos < 65536 * travelled + 2 * 10 ^ 9
  | .sampled rtt =>
    65536 * rtt.asNanos ≤ 65536 * travelled + 2 * 10 ^ 9 ∧
      65536 * travelled ≤ 65536 * rtt.asNanos + 2 * 10 ^ 9

/-- The units between the report and the arrival do not wrap. -/
theorem elapsedUnits_eq
    {exchange : Exchange}
    (short : 65536 * exchange.total ≤ (2 ^ 32 - 1) * 10 ^ 9)
    (stamped : info.ntpTimestamp = ntpTimestamp exchange.sentAt) :
    ((CompactNtp.fromDuration exchange.arrivalAt).wrappingElapsedSince
        ⟨compactNtp info⟩).toNat + wholeUnits exchange.sentAt.asNanos =
      wholeUnits exchange.arrivalAt.asNanos := by
  have arrival := toNat_fromDuration exchange.arrivalAt
  have sent := toNat_compactNtp stamped
  have later := (wholeUnits_add exchange.sentAt.asNanos exchange.total).1
  have wrap := wholeUnits_add_lt exchange.sentAt.asNanos short
  rw [Exchange.total, ← exchange.arrives] at later wrap
  rw [CompactNtp.wrappingElapsedSince, UInt32.toNat_sub, arrival, sent]
  omega

/-- The units between, less those that the report was held, measure the rest. -/
theorem measures_sample {estimator : RttEstimator}
    (ceiling : estimator.maximumUnits.toNat = wholeUnits maximum.asNanos)
    {arrival : CompactNtp} {lastSenderReport delayUnits : UInt32} {travelled held : Nat}
    (named : lastSenderReport ≠ 0)
    (elapsed : wholeUnits (travelled + held) ≤
          (arrival.wrappingElapsedSince ⟨lastSenderReport⟩).toNat ∧
        (arrival.wrappingElapsedSince ⟨lastSenderReport⟩).toNat ≤ wholeUnits (travelled + held) + 1)
    (delay : delayUnits.toNat = wholeUnits held) :
    Measures maximum travelled (estimator.observe arrival lastSenderReport delayUnits).2 := by
  rw [RttEstimator.observe, if_neg named]
  generalize arrival.wrappingElapsedSince ⟨lastSenderReport⟩ = elapsedUnits at elapsed
  rw [wholeUnits] at ceiling delay elapsed
  dsimp only
  split_ifs with early excessive
  · rw [UInt32.le_iff_toNat_le] at early
    change 65536 * travelled < 2 * 10 ^ 9
    omega
  · have sample := UInt32.toNat_sub_of_le _ _ (UInt32.le_of_lt (UInt32.not_le.mp early))
    rw [UInt32.lt_iff_toNat_lt, sample] at excessive
    change 65536 * maximum.asNanos < 65536 * travelled + 2 * 10 ^ 9
    omega
  · have sample := UInt32.toNat_sub_of_le _ _ (UInt32.le_of_lt (UInt32.not_le.mp early))
    rw [UInt32.le_iff_toNat_le] at early
    have nanos : (unitsToDuration (elapsedUnits - delayUnits)).asNanos =
        (elapsedUnits.toNat - delayUnits.toNat) * 10 ^ 9 / 65536 := by
      rw [← sample]
      exact unitsToNanos_eq _
    rw [Measures, nanos]
    omega

/-- A report block that the estimator receives in time measures the round trip. -/
theorem measures_observe {estimator : RttEstimator}
    (ceiling : estimator.maximumUnits.toNat = wholeUnits maximum.asNanos) {exchange : Exchange}
    (short : 65536 * exchange.total ≤ (2 ^ 32 - 1) * 10 ^ 9)
    (stamped : info.ntpTimestamp = ntpTimestamp exchange.sentAt)
    (named : compactNtp info ≠ 0) :
    Measures maximum exchange.travelled
      (estimator.observe (.fromDuration exchange.arrivalAt) (compactNtp info)
        (delaySinceSenderReport exchange.held.asNanos)).2 := by
  have parts : exchange.total = exchange.travelled + exchange.held.asNanos := by
    rw [Exchange.total, Exchange.travelled]
    omega
  have arrives : exchange.arrivalAt.asNanos = exchange.sentAt.asNanos + exchange.total :=
    exchange.arrives
  apply measures_sample ceiling named
  · have elapsed := elapsedUnits_eq short stamped
    have sums := wholeUnits_add exchange.sentAt.asNanos exchange.total
    rw [arrives] at elapsed
    rw [← parts]
    omega
  · rw [delaySinceSenderReport_eq, wholeUnits]
    omega

/-- The peer names the report that it noted and the time since. -/
theorem senderReportTiming_of_noted
    {before peer : RtpReceiveState} {compactNtp : UInt32} {receivedAt builtAt held : Duration}
    (named : compactNtp ≠ 0)
    (noted : peer.lastSenderReport =
      (before.noteSenderReport compactNtp receivedAt).lastSenderReport)
    (later : builtAt.asNanos = receivedAt.asNanos + held.asNanos) :
    peer.senderReportTiming builtAt = .ok (compactNtp, delaySinceSenderReport held.asNanos) := by
  have reference : peer.lastSenderReport = some ⟨compactNtp, receivedAt⟩ := by
    rw [noted]
    exact if_neg named
  rw [RtpReceiveState.senderReportTiming, reference]
  dsimp only
  rw [if_neg (by omega), later, Nat.add_sub_cancel_left]

/-- The round trip is measured to two units, at any point of a run of the estimator and
across the wrap of the seconds, where the whole exchange is one unit shorter than the
wrap. -/
theorem round_trip_measured
    {maximum : Duration} {fresh : RttEstimator}
    (created : RttEstimator.withMaximum maximum = .ok fresh)
    (calls : List RttCall) {exchange : Exchange}
    (short : 65536 * exchange.total ≤ (2 ^ 32 - 1) * 10 ^ 9) {info : RtcpSenderInfo}
    (stamped : info.ntpTimestamp = ntpTimestamp exchange.sentAt)
    (named : compactNtp info ≠ 0)
    {before peer : RtpReceiveState} {receivedAt builtAt : Duration}
    (noted : peer.lastSenderReport =
      (before.noteSenderReport (compactNtp info) receivedAt).lastSenderReport)
    (later : builtAt.asNanos = receivedAt.asNanos + exchange.held.asNanos) :
    ∃ lastSenderReport delay, peer.senderReportTiming builtAt = .ok (lastSenderReport, delay) ∧
        Measures maximum exchange.travelled
          ((Run.after RttEstimator.step fresh calls).observe
            (.fromDuration exchange.arrivalAt) lastSenderReport delay).2 := by
  refine ⟨_, _, senderReportTiming_of_noted named noted later, ?_⟩
  exact measures_observe (maximumUnits_run created calls) short stamped named

/-- A report that comes back after the seconds wrapped. -/
def sampleExchange : Exchange where
  sentAt := ⟨65535500000000, by decide⟩
  outward := ⟨100000000, by decide⟩
  held := ⟨700000000, by decide⟩
  back := ⟨200000000, by decide⟩
  arrivalAt := ⟨65536500000000, by decide⟩
  arrives := by decide

/-- The sender information of an exchange. -/
def Exchange.senderInfo (exchange : Exchange) : RtcpSenderInfo :=
  ⟨ntpTimestamp exchange.sentAt, 0, 0, 0⟩

theorem round_trip_measured_sampleExchange :
    ∃ lastSenderReport delay, ((RtpReceiveState.new sampleConfig).noteSenderReport
        (compactNtp sampleExchange.senderInfo)
        ⟨0, by decide⟩).senderReportTiming sampleExchange.held = .ok (lastSenderReport, delay) ∧
        Measures RttEstimator.defaultMaximumRtt sampleExchange.travelled
          (RttEstimator.new.observe (.fromDuration sampleExchange.arrivalAt)
            lastSenderReport delay).2 :=
  round_trip_measured withMaximum_default [] (by decide) rfl (by decide) rfl
    (Nat.zero_add _).symm

/-- A report of the wrap: one second out and back, and the rest of the 65536 seconds but
for two microseconds held. -/
def wrappingExchange : Exchange where
  sentAt := ⟨1000014000, by decide⟩
  outward := ⟨500000000, by decide⟩
  held := ⟨65534999998000, by decide⟩
  back := ⟨500000000, by decide⟩
  arrivalAt := ⟨65537000012000, by decide⟩
  arrives := by decide

/-- A round trip of the default ceiling, held for a part of a unit. -/
def ceilingExchange : Exchange where
  sentAt := ⟨1000014000, by decide⟩
  outward := ⟨30000000000, by decide⟩
  held := ⟨14000, by decide⟩
  back := ⟨30000000000, by decide⟩
  arrivalAt := ⟨61000028000, by decide⟩
  arrives := by decide

/-- A round trip of one second is taken for no time where the whole exchange comes within
a unit of the wrap, and one that is not above the ceiling is refused as above it. -/
theorem round_trip_refused_in_range :
    (wrappingExchange.total < 65536 * 10 ^ 9 ∧ wrappingExchange.travelled = 10 ^ 9 ∧
      (RttEstimator.new.observe (.fromDuration wrappingExchange.arrivalAt)
        (compactNtp wrappingExchange.senderInfo)
        (delaySinceSenderReport wrappingExchange.held.asNanos)).2 =
          .invalidReceiverDelay 0 4294901759) ∧
    ceilingExchange.travelled = RttEstimator.defaultMaximumRtt.asNanos ∧
      (RttEstimator.new.observe (.fromDuration ceilingExchange.arrivalAt)
        (compactNtp ceilingExchange.senderInfo)
        (delaySinceSenderReport ceilingExchange.held.asNanos)).2 =
          .outOfRange (unitsToDuration 3932161) RttEstimator.defaultMaximumRtt := by
  decide

end Rtp
end LiveAISIP
