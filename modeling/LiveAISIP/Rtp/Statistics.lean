import LiveAISIP.Rtp.Sequence
import LiveAISIP.Transaction.Timer

/-!
# Receive statistics

The media clock of `rtp/clock.rs`, the interarrival jitter of `rtp/stats/jitter.rs`
and the delayed loss accounting of `rtp/stats/reorder.rs`.
-/

namespace LiveAISIP
namespace Rtp

open Transaction (Duration)

/-- Maximum RTP clock rate. -/
def maxRtpClockRate : Nat := 1000000000

/-- Failure of a clock conversion. -/
inductive RtpClockError
  | zeroRate
  | rateTooHigh (actual maximum : Nat)
  | arithmeticOverflow
  | tickCountOverflow
  deriving DecidableEq

/-- Ticks of the media clock in a second. -/
structure RtpClockRate where
  get : UInt32
  get_pos : 0 < get.toNat
  get_le : get.toNat ≤ maxRtpClockRate
  deriving DecidableEq

/-- A checked clock rate. -/
def RtpClockRate.new (ticksPerSecond : UInt32) : Except RtpClockError RtpClockRate :=
  if positive : 0 < ticksPerSecond.toNat then
    if bounded : ticksPerSecond.toNat ≤ maxRtpClockRate then .ok ⟨ticksPerSecond, positive, bounded⟩
    else .error (.rateTooHigh ticksPerSecond.toNat maxRtpClockRate)
  else .error .zeroRate

/-- The clock rate of PCMU and PCMA. -/
def RtpClockRate.telephony8KHz : RtpClockRate := ⟨8000, by decide, by decide⟩

/-- The whole ticks in a span of time. -/
def RtpClockRate.ticksForDuration (rate : RtpClockRate) (duration : Duration) :
    Except RtpClockError Nat :=
  if 2 ^ 128 ≤ duration.asNanos * rate.get.toNat then .error .arithmeticOverflow
  else if 2 ^ 64 ≤ duration.asNanos * rate.get.toNat / 10 ^ 9 then
    .error .tickCountOverflow
  else .ok (duration.asNanos * rate.get.toNat / 10 ^ 9)

/-- The signed distance between two timestamps that are less than half the range
apart. -/
def signedTimestampDistance (newer older : UInt32) : Int32 := (newer - older).toInt32

theorem signedTimestampDistance_self (timestamp : UInt32) :
    signedTimestampDistance timestamp timestamp = 0 := by
  simp [signedTimestampDistance]

/-- The largest plausible transit change, in seconds. -/
def defaultMaxTransitStepSeconds : Nat := 10

/-- Result of one jitter observation. -/
inductive JitterUpdate
  | primed
  | updated
  | discontinuityIgnored (deltaTicks maximumTicks : UInt32)
  deriving DecidableEq

/-- Interarrival jitter with four fractional bits.  A transit is kept as the bits
of a signed word. -/
structure JitterEstimator where
  clockRate : RtpClockRate
  previousTransit : Option UInt32
  jitterQ4 : Nat
  maximumStepTicks : UInt32
  observations : Nat
  discontinuities : Nat
  deriving DecidableEq

namespace JitterEstimator

/-- An estimator without observations. -/
def new (clockRate : RtpClockRate) : JitterEstimator where
  clockRate := clockRate
  previousTransit := none
  jitterQ4 := 0
  maximumStepTicks :=
    (min (clockRate.get.toNat * defaultMaxTransitStepSeconds) (2 ^ 32 - 1)).toUInt32
  observations := 0
  discontinuities := 0

/-- The absolute value of a signed word. -/
def unsignedAbs (bits : UInt32) : UInt32 :=
  if bits < 0x80000000 then bits else 0 - bits

/-- Observe an arrival time and a timestamp. -/
def observe (estimator : JitterEstimator) (arrivalTimestamp rtpTimestamp : UInt32) :
    JitterEstimator × JitterUpdate :=
  let transit := arrivalTimestamp - rtpTimestamp
  let observed := { estimator with
    observations := saturatingAdd estimator.observations 1
    previousTransit := some transit }
  match estimator.previousTransit with
  | none => (observed, .primed)
  | some previous =>
    let delta := unsignedAbs (transit - previous)
    if estimator.maximumStepTicks < delta then
      ({ observed with
          discontinuities := saturatingAdd estimator.discontinuities 1 },
        .discontinuityIgnored delta estimator.maximumStepTicks)
    else
      let decay := saturatingAdd estimator.jitterQ4 8 / 16
      ({ observed with
          jitterQ4 := saturatingAdd estimator.jitterQ4 delta.toNat - decay }, .updated)

/-- Forget all observations. -/
def reset (estimator : JitterEstimator) : JitterEstimator :=
  { estimator with
    previousTransit := none
    jitterQ4 := 0
    observations := 0
    discontinuities := 0 }

end JitterEstimator

/-- Packets that may overtake another before it counts as lost. -/
def reorderWindowPackets : Nat := 64

/-- Gaps that wait for their packets. -/
structure DelayedLossTracker where
  highest : Option Nat
  pending : List (Option Nat)
  finalizedLost : Nat
  recoveredLate : Nat
  deriving DecidableEq

namespace DelayedLossTracker

/-- No packets, no gaps. -/
def new : DelayedLossTracker where
  highest := none
  pending := List.replicate reorderWindowPackets none
  finalizedLost := 0
  recoveredLate := 0

/-- The distance of two numbers. -/
def absDiff (first second : Nat) : Nat := first - second + (second - first)

/-- The extension of a sequence number that is nearest to the highest one, the
first of the nearest. -/
def extendNear (sequence : UInt16) (highest : Nat) : Nat :=
  let base := highest / 2 ^ 16 * 2 ^ 16 + sequence.toNat
  let above := saturatingAdd base (2 ^ 16)
  let below := if 2 ^ 16 ≤ base then [base - 2 ^ 16] else []
  (above :: below).foldl
    (fun nearest candidate =>
      if absDiff candidate highest < absDiff nearest highest then candidate
      else nearest) base

/-- Replace the first slot that has a value. -/
def replaceFirst (pending : List (Option Nat)) (old new : Option Nat) : List (Option Nat) :=
  pending.set (pending.idxOf old) new

/-- The position of the first smallest slot, where an empty slot is the largest. -/
def oldestSlot (pending : List (Option Nat)) : Nat :=
  let keys := pending.map fun slot => slot.getD (2 ^ 64 - 1)
  keys.idxOf (keys.foldl min (2 ^ 64 - 1))

/-- Wait for a missing packet. -/
def insertPending (tracker : DelayedLossTracker) (sequence : Nat) : DelayedLossTracker :=
  if some sequence ∈ tracker.pending then tracker
  else if none ∈ tracker.pending then
    { tracker with pending := replaceFirst tracker.pending none (some sequence) }
  else
    { tracker with
      finalizedLost := saturatingAdd tracker.finalizedLost 1
      pending := tracker.pending.set (oldestSlot tracker.pending) (some sequence) }

/-- The slot's packet may no longer arrive. -/
def isOld (highest : Nat) (slot : Option Nat) : Bool :=
  slot.any fun missing => reorderWindowPackets ≤ highest - missing

/-- Give up gaps that left the window. -/
def finalizeOld (tracker : DelayedLossTracker) (highest : Nat) : DelayedLossTracker :=
  { tracker with
    pending := tracker.pending.map fun slot => if isOld highest slot then none else slot
    finalizedLost :=
      saturatingAdd tracker.finalizedLost (tracker.pending.countP (isOld highest)) }

/-- Observe the sequence number of an admitted packet. -/
def observe (tracker : DelayedLossTracker) (sequence : UInt16) : DelayedLossTracker :=
  match tracker.highest with
  | none => { tracker with highest := some sequence.toNat }
  | some highest =>
    let extended := extendNear sequence highest
    if extended ≤ highest then
      if some extended ∈ tracker.pending then
        { tracker with
          pending := replaceFirst tracker.pending (some extended) none
          recoveredLate := saturatingAdd tracker.recoveredLate 1 }
      else tracker
    else
      let gap := extended - highest - 1
      let passed := if reorderWindowPackets < gap then
          { tracker with
            finalizedLost :=
              saturatingAdd tracker.finalizedLost (gap - reorderWindowPackets) }
        else tracker
      let recent := min gap reorderWindowPackets
      let waiting := (List.range' (extended - recent) recent).foldl insertPending passed
      finalizeOld { waiting with highest := some extended } extended

end DelayedLossTracker
end Rtp
end LiveAISIP
