import LiveAISIP.Rtp.RoundTripTime

/-!
# The range of the fixed-point filters

The jitter of `rtp/stats/jitter.rs` and the smoothed round-trip time of `rtp/stats/rtt.rs`
are running averages in integers, with four and three fractional bits.  Each step rounds,
and no rounding ever takes an average out of the range of what it averages.
-/

namespace LiveAISIP
namespace Rtp

open Transaction (Duration)
open Run List

namespace JitterEstimator

/-- An estimator with its own ceiling of a transit change. -/
def withMaximumStep (clockRate : RtpClockRate) (maximumStepTicks : UInt32) :
    JitterEstimator where
  clockRate := clockRate
  previousTransit := none
  jitterQ4 := 0
  maximumStepTicks := maximumStepTicks
  observations := 0
  discontinuities := 0

/-- Observe an arrival in monotonic time, in ticks of the clock. -/
def observeDuration
    (estimator : JitterEstimator) (arrival : Duration) (rtpTimestamp : UInt32) :
    Except RtpClockError (JitterEstimator × JitterUpdate) := do
  let ticks ← estimator.clockRate.ticksForDuration arrival
  return estimator.observe ticks.toUInt32 rtpTimestamp

end JitterEstimator

/-- A call on the estimator. -/
inductive JitterCall
  | observe (arrivalTimestamp rtpTimestamp : UInt32)
  | observeDuration (arrival : Duration) (rtpTimestamp : UInt32)
  | reset

namespace JitterEstimator

variable {estimator : JitterEstimator}

/-- Make one call. -/
def step (estimator : JitterEstimator) :
    JitterCall → JitterEstimator × Option (Except RtpClockError JitterUpdate)
  | .observe arrivalTimestamp rtpTimestamp =>
    ((estimator.observe arrivalTimestamp rtpTimestamp).1,
      some (.ok (estimator.observe arrivalTimestamp rtpTimestamp).2))
  | .observeDuration arrival rtpTimestamp =>
    match estimator.observeDuration arrival rtpTimestamp with
    | .ok (observed, update) => (observed, some (.ok update))
    | .error error => (estimator, some (.error error))
  | .reset => (estimator.reset, none)

/-- The transit change that an observation adds to the average, where there is one. -/
def acceptedChange (estimator : JitterEstimator) (arrivalTimestamp rtpTimestamp : UInt32) :
    Option UInt32 :=
  match estimator.previousTransit with
  | none => none
  | some previous =>
    let delta := unsignedAbs (arrivalTimestamp - rtpTimestamp - previous)
    if delta ≤ estimator.maximumStepTicks then some delta else none

/-- The larger of a transit change and the one that an observation adds. -/
def widen (estimator : JitterEstimator) (arrivalTimestamp rtpTimestamp : UInt32)
    (largest : Nat) : Nat :=
  (estimator.acceptedChange arrivalTimestamp rtpTimestamp).elim largest
    fun delta => max largest delta.toNat

/-- The largest accepted change after one more call. -/
def nextLargest (estimator : JitterEstimator) : JitterCall → Nat → Nat
  | .observe arrivalTimestamp rtpTimestamp, largest =>
    estimator.widen arrivalTimestamp rtpTimestamp largest
  | .observeDuration arrival rtpTimestamp, largest =>
    match estimator.clockRate.ticksForDuration arrival with
    | .ok ticks => estimator.widen ticks.toUInt32 rtpTimestamp largest
    | .error _ => largest
  | .reset, _ => 0

/-- The largest transit change that a run has accepted since the last reset. -/
def largestChange (fresh : JitterEstimator) (calls : List JitterCall) : Nat :=
  carry nextLargest step fresh 0 calls

/-- An observation that adds no change leaves the average, and one that does moves it
towards the change by a sixteenth. -/
theorem observe_spec
    (estimator : JitterEstimator) (arrivalTimestamp rtpTimestamp : UInt32) :
    (estimator.observe arrivalTimestamp rtpTimestamp).1.previousTransit =
        some (arrivalTimestamp - rtpTimestamp) ∧
      (estimator.observe arrivalTimestamp rtpTimestamp).1.maximumStepTicks =
        estimator.maximumStepTicks ∧
      (estimator.observe arrivalTimestamp rtpTimestamp).1.jitterQ4 =
        (estimator.acceptedChange arrivalTimestamp rtpTimestamp).elim estimator.jitterQ4
          fun delta => saturatingAdd estimator.jitterQ4 delta.toNat -
            saturatingAdd estimator.jitterQ4 8 / 16 := by
  rw [observe, acceptedChange]
  cases estimator.previousTransit with
  | none => exact ⟨rfl, rfl, rfl⟩
  | some previous =>
    dsimp only
    by_cases accepted : unsignedAbs (arrivalTimestamp - rtpTimestamp - previous) ≤
        estimator.maximumStepTicks
    · rw [if_neg (UInt32.not_lt.mpr accepted), if_pos accepted]
      exact ⟨rfl, rfl, rfl⟩
    · rw [if_pos (UInt32.not_le.mp accepted), if_neg accepted]
      exact ⟨rfl, rfl, rfl⟩

theorem le_of_acceptedChange {arrivalTimestamp rtpTimestamp delta : UInt32}
    (accepted : estimator.acceptedChange arrivalTimestamp rtpTimestamp = some delta) :
    delta.toNat ≤ estimator.maximumStepTicks.toNat := by
  rw [acceptedChange] at accepted
  cases before : estimator.previousTransit with
  | none =>
    rw [before] at accepted
    cases accepted
  | some previous =>
    rw [before] at accepted
    dsimp only at accepted
    split_ifs at accepted with small
    cases accepted
    exact UInt32.le_iff_toNat_le.mp small

/-- A change up to a bound does not take the average above the bound: at sixteen times the
bound a step takes away as much as it adds. -/
theorem decayed_le
    {jitterQ4 delta bound : Nat}
    (below : jitterQ4 ≤ 16 * bound) (change : delta ≤ bound) (small : bound < 2 ^ 32) :
    saturatingAdd jitterQ4 delta - saturatingAdd jitterQ4 8 / 16 ≤ 16 * bound := by
  rw [saturatingAdd, saturatingAdd]
  omega

/-- The average is at most the largest accepted change, which is at most the ceiling. -/
structure Bounded (estimator : JitterEstimator) (largest : Nat) : Prop where
  average : estimator.jitterQ4 ≤ 16 * largest
  ceiling : largest ≤ estimator.maximumStepTicks.toNat

theorem Bounded.observe {largest : Nat} (bounded : estimator.Bounded largest)
    (arrivalTimestamp rtpTimestamp : UInt32) :
    (estimator.observe arrivalTimestamp rtpTimestamp).1.Bounded
      (estimator.widen arrivalTimestamp rtpTimestamp largest) := by
  obtain ⟨-, ceiling, average⟩ := estimator.observe_spec arrivalTimestamp rtpTimestamp
  rw [widen]
  cases accepted : estimator.acceptedChange arrivalTimestamp rtpTimestamp with
  | none =>
    rw [accepted] at average
    exact ⟨by rw [average]; exact bounded.average, by rw [ceiling]; exact bounded.ceiling⟩
  | some delta =>
    have small := le_of_acceptedChange accepted
    have wider : max largest delta.toNat ≤ estimator.maximumStepTicks.toNat :=
      max_le bounded.ceiling small
    have fits := estimator.maximumStepTicks.toNat_lt
    rw [accepted] at average
    refine ⟨?_, by rw [ceiling]; exact wider⟩
    rw [average]
    exact decayed_le (bounded.average.trans (Nat.mul_le_mul_left 16 (le_max_left ..)))
      (le_max_right ..) (wider.trans_lt fits)

/-- Every call keeps the average in range. -/
theorem Bounded.step {largest : Nat} (bounded : estimator.Bounded largest)
    (call : JitterCall) :
    (estimator.step call).1.Bounded (estimator.nextLargest call largest) := by
  cases call with
  | observe arrivalTimestamp rtpTimestamp =>
    exact bounded.observe arrivalTimestamp rtpTimestamp
  | observeDuration arrival rtpTimestamp =>
    rw [JitterEstimator.step, observeDuration, nextLargest]
    cases estimator.clockRate.ticksForDuration arrival with
    | error error => exact bounded
    | ok ticks => exact bounded.observe ticks.toUInt32 rtpTimestamp
  | reset => exact ⟨Nat.zero_le _, Nat.zero_le _⟩

section

variable (clockRate : RtpClockRate) (maximumStepTicks : UInt32)

/-- At every point of a run the average is in range. -/
theorem bounded_run (calls : List JitterCall) :
    (after step (withMaximumStep clockRate maximumStepTicks) calls).Bounded
      (largestChange (withMaximumStep clockRate maximumStepTicks) calls) :=
  carry_invariant Bounded ⟨Nat.le_refl 0, Nat.zero_le _⟩
    (fun _ _ call bounded => bounded.step call) calls

theorem maximumStepTicks_step (estimator : JitterEstimator) (call : JitterCall) :
    (estimator.step call).1.maximumStepTicks = estimator.maximumStepTicks := by
  cases call with
  | observe arrivalTimestamp rtpTimestamp => exact (estimator.observe_spec _ _).2.1
  | observeDuration arrival rtpTimestamp =>
    rw [step, observeDuration]
    cases estimator.clockRate.ticksForDuration arrival with
    | error error => rfl
    | ok ticks => exact (estimator.observe_spec _ _).2.1
  | reset => rfl

theorem maximumStepTicks_run (calls : List JitterCall) :
    (after step (withMaximumStep clockRate maximumStepTicks) calls).maximumStepTicks =
      maximumStepTicks :=
  invariant (fun estimator => estimator.maximumStepTicks = maximumStepTicks) rfl
    (fun estimator call kept => (maximumStepTicks_step estimator call).trans kept) calls

end

theorem toNat_jitter_le (estimator : JitterEstimator) :
    estimator.jitter.toNat ≤ estimator.jitterQ4 / 16 := by
  rw [jitter, Nat.toUInt32_eq, UInt32.toNat_ofNat']
  exact (Nat.mod_le _ _).trans (min_le_left ..)

/-- A packet whose transit is the one before takes a sixteenth off the average. -/
theorem observe_of_same {arrivalTimestamp rtpTimestamp : UInt32}
    (same : estimator.previousTransit = some (arrivalTimestamp - rtpTimestamp)) :
    (estimator.observe arrivalTimestamp rtpTimestamp).1.jitterQ4 =
      saturatingAdd estimator.jitterQ4 0 - saturatingAdd estimator.jitterQ4 8 / 16 := by
  obtain ⟨-, -, average⟩ := estimator.observe_spec arrivalTimestamp rtpTimestamp
  have accepted : estimator.acceptedChange arrivalTimestamp rtpTimestamp = some 0 := by
    rw [acceptedChange, same]
    dsimp only
    rw [UInt32.sub_self]
    exact if_pos (UInt32.zero_le)
  rw [average, accepted]
  rfl

/-- Without a change the average falls, until it rounds to zero. -/
theorem decayed_lt (jitterQ4 count : Nat) :
    max 7 (saturatingAdd jitterQ4 0 - saturatingAdd jitterQ4 8 / 16 - count) ≤
      max 7 (jitterQ4 - (count + 1)) := by
  have ceiling : 16 ≤ 2 ^ 64 - 1 := by decide
  rw [saturatingAdd, saturatingAdd]
  generalize 2 ^ 64 - 1 = limit at ceiling ⊢
  omega

/-- Packets of one transit. -/
def steady (packets : List (UInt32 × UInt32)) : List JitterCall :=
  packets.map fun packet => .observe packet.1 packet.2

/-- While the transit stays, the average falls by one with each packet until it rounds to
zero. -/
theorem jitterQ4_steady_le {transit : UInt32}
    (before : estimator.previousTransit = some transit) {packets : List (UInt32 × UInt32)}
    (constant : ∀ packet ∈ packets, packet.1 - packet.2 = transit) :
    (after step estimator (steady packets)).jitterQ4 ≤
      max 7 (estimator.jitterQ4 - packets.length) := by
  induction packets generalizing estimator with
  | nil => exact le_max_right ..
  | cons packet packets ih =>
    have same := constant packet (mem_cons_self ..)
    have falls := observe_of_same (before.trans (congrArg some same.symm))
    have later := ih ((estimator.observe_spec packet.1 packet.2).1.trans (congrArg some same))
      (fun other member => constant other (mem_cons_of_mem _ member))
    rw [steady, map_cons, after_cons, length_cons]
    refine later.trans ?_
    rw [falls]
    exact decayed_lt estimator.jitterQ4 packets.length

/-- A constant transit takes the jitter of any bounded average to zero. -/
theorem jitter_steady {largest : Nat} (bounded : estimator.Bounded largest)
    {transit : UInt32} {packets : List (UInt32 × UInt32)}
    (constant : ∀ packet ∈ packets, packet.1 - packet.2 = transit)
    (enough : 16 * 2 ^ 32 < packets.length) :
    (after step estimator (steady packets)).jitter = 0 := by
  cases packets with
  | nil => exact absurd enough (Nat.not_lt_zero _)
  | cons packet packets =>
    have same := constant packet (mem_cons_self ..)
    have first := bounded.observe packet.1 packet.2
    have falls := jitterQ4_steady_le
      ((estimator.observe_spec packet.1 packet.2).1.trans (congrArg some same))
      (fun other member => constant other (mem_cons_of_mem _ member))
    have ceiling := (estimator.observe packet.1 packet.2).1.maximumStepTicks.toNat_lt
    have average := first.average
    have widest := first.ceiling
    rw [length_cons] at enough
    have small := toNat_jitter_le
      (after step (estimator.observe packet.1 packet.2).1 (steady packets))
    have nothing : (after step estimator (steady (packet :: packets))).jitter.toNat = 0 := by
      change (after step (estimator.observe packet.1 packet.2).1 (steady packets)).jitter.toNat = 0
      omega
    exact UInt32.toNat_inj.mp nothing

end JitterEstimator

namespace RttEstimator

variable {ceiling : UInt32} {estimator : RttEstimator}

variable {samples : List Duration}

/-- The smoothed round-trip time. -/
def smoothed (estimator : RttEstimator) : Option Duration :=
  if estimator.samples = 0 then none
  else
    let units := saturatingAdd estimator.smoothedQ3 4 >>> 3
    some (unitsToDuration (min units (2 ^ 32 - 1)).toUInt32)

/-- The least accepted round-trip time. -/
def minimum (estimator : RttEstimator) : Option Duration :=
  estimator.minimumUnits.map unitsToDuration

/-- The greatest accepted round-trip time. -/
def maximum (estimator : RttEstimator) : Option Duration :=
  estimator.maximumObservedUnits.map unitsToDuration

/-- The samples after one more call. -/
def nextSamples (estimator : RttEstimator) (call : RttCall) (samples : List Duration) :
    List Duration :=
  match (estimator.step call).2 with
  | none => []
  | some (.sampled rtt) => samples ++ [rtt]
  | some _ => samples

/-- The samples that a run has accepted since the last reset. -/
def acceptedSamples (fresh : RttEstimator) (calls : List RttCall) : List Duration :=
  carry nextSamples step fresh [] calls

/-- The average lies between the least and the greatest sample, to the rounding unit. -/
inductive Ranged (ceiling : UInt32) (estimator : RttEstimator) (samples : List Duration) : Prop
  | empty
      (configured : estimator.maximumUnits = ceiling)
      (unsampled : estimator.samples = 0)
      (nothing : samples = [])
      (least : estimator.minimumUnits = none)
      (greatest : estimator.maximumObservedUnits = none)
  | sampled (low high : UInt32)
      (configured : estimator.maximumUnits = ceiling)
      (counted : estimator.samples ≠ 0)
      (least : estimator.minimumUnits = some low)
      (greatest : estimator.maximumObservedUnits = some high)
      (lowSampled : unitsToDuration low ∈ samples)
      (highSampled : unitsToDuration high ∈ samples)
      (above : 8 * low.toNat ≤ estimator.smoothedQ3 + 4)
      (below : estimator.smoothedQ3 ≤ 8 * high.toNat + 3)
      (inside : high.toNat ≤ ceiling.toNat)

/-- A step takes away the rounded average and adds a sample, so that the average stays
between bounds of both. -/
theorem smoothed_between
    {smoothedQ3 low high sample : Nat}
    (above : 8 * low ≤ smoothedQ3 + 4) (below : smoothedQ3 ≤ 8 * high + 3)
    (small : high < 2 ^ 32) (sampled : sample < 2 ^ 32) :
    8 * min low sample ≤ saturatingAdd smoothedQ3 sample - saturatingAdd smoothedQ3 4 >>> 3 + 4 ∧
      saturatingAdd smoothedQ3 sample - saturatingAdd smoothedQ3 4 >>> 3 ≤
        8 * max high sample + 3 := by
  rw [saturatingAdd, saturatingAdd, Nat.shiftRight_eq_div_pow]
  omega

theorem toNat_min (first second : UInt32) :
    (min first second).toNat = min first.toNat second.toNat ∧
      (min first second = first ∨ min first second = second) := by
  have split : min first second = if first ≤ second then first else second := rfl
  rw [split, min_def]
  simp only [UInt32.le_iff_toNat_le]
  split_ifs
  · exact ⟨rfl, .inl rfl⟩
  · exact ⟨rfl, .inr rfl⟩

theorem toNat_max (first second : UInt32) :
    (max first second).toNat = max first.toNat second.toNat ∧
      (max first second = first ∨ max first second = second) := by
  have split : max first second = if first ≤ second then second else first := rfl
  rw [split, max_def]
  simp only [UInt32.le_iff_toNat_le]
  split_ifs
  · exact ⟨rfl, .inr rfl⟩
  · exact ⟨rfl, .inl rfl⟩

theorem Ranged.accept
    (ranged : Ranged ceiling estimator samples)
    {sampleUnits : UInt32} (fits : sampleUnits ≤ estimator.maximumUnits) :
    Ranged ceiling (estimator.accept sampleUnits) (samples ++ [unitsToDuration sampleUnits]) := by
  have bounded := UInt32.le_iff_toNat_le.mp fits
  have small := sampleUnits.toNat_lt
  have last : unitsToDuration sampleUnits ∈ samples ++ [unitsToDuration sampleUnits] :=
    mem_append_right _ (mem_singleton_self _)
  have counted : saturatingAdd estimator.samples 1 ≠ 0 := by
    rw [saturatingAdd]
    omega
  cases ranged with
  | empty configured unsampled nothing least greatest =>
    have started : estimator.smooth sampleUnits = 8 * sampleUnits.toNat := by
      rw [smooth, if_pos unsampled, Nat.shiftLeft_eq]
      omega
    refine .sampled sampleUnits sampleUnits configured counted ?_ ?_ last last ?_ ?_ ?_
    · rw [RttEstimator.accept, least]
      rfl
    · rw [RttEstimator.accept, greatest]
      rfl
    · change _ ≤ estimator.smooth sampleUnits + 4
      omega
    · change estimator.smooth sampleUnits ≤ _
      omega
    · rw [← configured]
      exact bounded
  | sampled low high configured sampledBefore least greatest lowSampled highSampled above
      below inside =>
      have highSmall := high.toNat_lt
      obtain ⟨stillAbove, stillBelow⟩ := smoothed_between above below highSmall small
      have average : estimator.smooth sampleUnits =
          saturatingAdd estimator.smoothedQ3 sampleUnits.toNat -
            saturatingAdd estimator.smoothedQ3 4 >>> 3 := if_neg sampledBefore
      obtain ⟨minimumToNat, isMinimum⟩ := toNat_min low sampleUnits
      obtain ⟨maximumToNat, isMaximum⟩ := toNat_max high sampleUnits
      have either {first : UInt32} (member : unitsToDuration first ∈ samples) {chosen : UInt32}
          (choice : chosen = first ∨ chosen = sampleUnits) :
          unitsToDuration chosen ∈ samples ++ [unitsToDuration sampleUnits] := by
        rcases choice with rfl | rfl
        · exact mem_append_left _ member
        · exact last
      refine .sampled (min low sampleUnits) (max high sampleUnits) configured counted
        ?_ ?_ (either lowSampled isMinimum) (either highSampled isMaximum) ?_ ?_ ?_
      · rw [RttEstimator.accept, least]
        rfl
      · rw [RttEstimator.accept, greatest]
        rfl
      · change _ ≤ estimator.smooth sampleUnits + 4
        rw [minimumToNat, average]
        exact stillAbove
      · change estimator.smooth sampleUnits ≤ _
        rw [maximumToNat, average]
        exact stillBelow
      · rw [maximumToNat, ← configured]
        exact max_le (configured ▸ inside) bounded

theorem Ranged.reject
    (ranged : Ranged ceiling estimator samples) :
    Ranged ceiling estimator.reject samples := by
  cases ranged with
  | empty configured unsampled nothing least greatest =>
    exact .empty configured unsampled nothing least greatest
  | sampled low high configured counted least greatest lowSampled highSampled above below
      inside =>
      exact .sampled low high configured counted least greatest lowSampled highSampled
        above below inside

/-- Every call keeps the average in range. -/
theorem Ranged.step
    (ranged : Ranged ceiling estimator samples) (call : RttCall) :
    Ranged ceiling (estimator.step call).1 (estimator.nextSamples call samples) := by
  cases call with
  | reset =>
    have configured : estimator.maximumUnits = ceiling := by
      cases ranged with
      | empty configured => exact configured
      | sampled _ _ configured => exact configured
    exact .empty configured rfl rfl rfl rfl
  | observe arrival lastSenderReport delay =>
    rw [nextSamples, RttEstimator.step]
    dsimp only
    rw [observe]
    by_cases unnamed : lastSenderReport = 0
    · rw [if_pos unnamed]
      exact ranged
    · rw [if_neg unnamed]
      dsimp only
      split_ifs with early excessive
      · exact ranged.reject
      · exact ranged.reject
      · exact ranged.accept (UInt32.not_lt.mp excessive)

theorem unitsToDuration_le {first second : UInt32} (le : first.toNat ≤ second.toNat) :
    (unitsToDuration first).asNanos ≤ (unitsToDuration second).asNanos := by
  change unitsToNanos first ≤ unitsToNanos second
  rw [unitsToNanos_eq, unitsToNanos_eq]
  exact Nat.div_le_div_right (Nat.mul_le_mul_right _ le)

/-- The smoothed time in units, where nothing saturates. -/
theorem smoothed_eq (counted : estimator.samples ≠ 0)
    {high : UInt32} (below : estimator.smoothedQ3 ≤ 8 * high.toNat + 3) :
    ∃ units : UInt32, units.toNat = (estimator.smoothedQ3 + 4) / 8 ∧
      estimator.smoothed = some (unitsToDuration units) := by
  have small := high.toNat_lt
  refine ⟨_, ?_, if_neg counted⟩
  rw [Nat.toUInt32_eq, UInt32.toNat_ofNat', saturatingAdd, Nat.shiftRight_eq_div_pow]
  omega

end RttEstimator

/-- The jitter is at most the largest transit change that was accepted, and a constant
transit takes it to zero. -/
structure JitterInRange (maximumStepTicks : UInt32) (fresh : JitterEstimator)
    (calls : List JitterCall) : Prop where
  jitter_le : (after JitterEstimator.step fresh calls).jitter.toNat ≤ fresh.largestChange calls
  largest_le : fresh.largestChange calls ≤ maximumStepTicks.toNat
  vanishes : ∀ transit, ∃ enough, ∀ packets : List (UInt32 × UInt32),
    (∀ packet ∈ packets, packet.1 - packet.2 = transit) → enough ≤ packets.length →
      (after JitterEstimator.step fresh (calls ++ JitterEstimator.steady packets)).jitter = 0

/-- The smoothed time is between the least and the greatest sample, which is at most the
configured ceiling, and it is the sample while all samples are equal. -/
def RttInRange (maximum : Duration) (fresh : RttEstimator) (calls : List RttCall) : Prop :=
  fresh.acceptedSamples calls ≠ [] → ∃ least middle greatest : Duration,
      (after RttEstimator.step fresh calls).minimum = some least ∧
      (after RttEstimator.step fresh calls).smoothed = some middle ∧
      (after RttEstimator.step fresh calls).maximum = some greatest ∧
      least.asNanos ≤ middle.asNanos ∧ middle.asNanos ≤ greatest.asNanos ∧
      greatest.asNanos ≤ maximum.asNanos ∧
      ∀ sample, (∀ other ∈ fresh.acceptedSamples calls, other = sample) → middle = sample

theorem jitterInRange
    (clockRate : RtpClockRate) (maximumStepTicks : UInt32) (calls : List JitterCall) :
    JitterInRange maximumStepTicks
      (JitterEstimator.withMaximumStep clockRate maximumStepTicks) calls := by
  have bounded := JitterEstimator.bounded_run clockRate maximumStepTicks calls
  refine ⟨?_, ?_, fun transit => ⟨16 * 2 ^ 32 + 1, fun packets constant enough => ?_⟩⟩
  · have average := bounded.average
    have small := JitterEstimator.toNat_jitter_le (after JitterEstimator.step
        (JitterEstimator.withMaximumStep clockRate maximumStepTicks) calls)
    omega
  · have ceiling := bounded.ceiling
    rwa [JitterEstimator.maximumStepTicks_run] at ceiling
  · rw [after_append]
    exact JitterEstimator.jitter_steady bounded constant enough

theorem rttInRange
    {maximum : Duration} {fresh : RttEstimator}
    (created : RttEstimator.withMaximum maximum = .ok fresh) (calls : List RttCall) :
    RttInRange maximum fresh calls := by
  intro accepted
  have ceiling := maximumUnits_run created calls
  have start : RttEstimator.Ranged fresh.maximumUnits fresh [] := by
    obtain ⟨units, -, rest⟩ := Outcome.bind_eq_ok.mp created
    obtain ⟨_, -, rest⟩ := Outcome.bind_eq_ok.mp rest
    cases rest
    exact .empty rfl rfl rfl rfl rfl
  have ranged : RttEstimator.Ranged fresh.maximumUnits
      (after RttEstimator.step fresh calls) (fresh.acceptedSamples calls) :=
    carry_invariant (RttEstimator.Ranged fresh.maximumUnits) start
      (fun _ _ call ranged => ranged.step call) calls
  generalize after RttEstimator.step fresh calls = estimator at ranged ceiling ⊢
  generalize fresh.acceptedSamples calls = samples at ranged accepted ⊢
  cases ranged with
  | empty _ _ nothing => exact absurd nothing accepted
  | sampled low high configured counted least greatest lowSampled highSampled above below
      inside =>
      obtain ⟨units, rounded, smoothed⟩ := RttEstimator.smoothed_eq counted below
      have lower := RttEstimator.unitsToDuration_le (by omega : low.toNat ≤ units.toNat)
      have upper := RttEstimator.unitsToDuration_le (by omega : units.toNat ≤ high.toNat)
      have capped : (unitsToDuration high).asNanos ≤ maximum.asNanos := by
        change unitsToNanos high ≤ _
        rw [← configured, ceiling, wholeUnits] at inside
        rw [unitsToNanos_eq]
        omega
      refine ⟨_, _, _, by rw [RttEstimator.minimum, least]; rfl, smoothed,
        by rw [RttEstimator.maximum, greatest]; rfl, lower, upper, capped, ?_⟩
      intro sample equal
      have same : (unitsToDuration units).asNanos = sample.asNanos := by
        rw [equal _ lowSampled] at lower
        rw [equal _ highSampled] at upper
        exact Nat.le_antisymm upper lower
      generalize unitsToDuration units = middle at same
      cases middle
      cases sample
      simpa using same

/-- At every point of every run both averages are in the range of what they average. -/
theorem filters_inRange
    (clockRate : RtpClockRate) (maximumStepTicks : UInt32) (jitterCalls : List JitterCall)
    {maximum : Duration} {fresh : RttEstimator}
    (created : RttEstimator.withMaximum maximum = .ok fresh) (rttCalls : List RttCall) :
    JitterInRange maximumStepTicks
        (JitterEstimator.withMaximumStep clockRate maximumStepTicks) jitterCalls ∧
      RttInRange maximum fresh rttCalls :=
  ⟨jitterInRange clockRate maximumStepTicks jitterCalls, rttInRange created rttCalls⟩

/-- One second out and back, smoothed with the default ceiling. -/
theorem filters_inRange_default :
    JitterInRange 100 (JitterEstimator.withMaximumStep .telephony8KHz 100)
        [.observe 1000 100, .observe 1160 180] ∧
      RttInRange RttEstimator.defaultMaximumRtt RttEstimator.new [.observe ⟨65537⟩ 1 0] :=
  filters_inRange .telephony8KHz 100 _ withMaximum_default _

end Rtp
end LiveAISIP
