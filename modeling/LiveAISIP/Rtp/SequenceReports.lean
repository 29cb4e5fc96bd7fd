import LiveAISIP.Rtp.Sequence
import Mathlib.Algebra.Group.Int.Defs

/-!
# Extended sequence numbers and loss reports

The reports of `rtp/stats/sequence.rs` over a stream of true packet indices.
Only the low 16 bits of an index are on the wire; as long as every packet lies
within the reordering and dropout windows of the highest one, the cycles that
the tracker counts restore the rest.
-/

namespace LiveAISIP
namespace Rtp

open UInt16 Run

/-- Immutable reception statistics at one reporting instant. -/
structure SequenceSnapshot where
  extendedHighestSequence : Nat
  expectedPackets : Nat
  receivedPackets : Nat
  cumulativeLost : Int
  fractionLost : UInt8

/-- The report of a source that is not validated. -/
def SequenceSnapshot.zero : SequenceSnapshot := ⟨0, 0, 0, 0, 0⟩

/-- Difference of two counters that stays within 64 signed bits. -/
def signedDifference (left right : Nat) : Int :=
  if right ≤ left then
    if left - right ≤ 2 ^ 63 - 1 then left - right else 2 ^ 63 - 1
  else
    if right - left ≤ 2 ^ 63 - 1 then -(right - left) else -2 ^ 63

/-- Interval loss as a fraction of 256. -/
def intervalFraction (lost : Int) (expected : Nat) : UInt8 :=
  if lost ≤ 0 ∨ expected = 0 then 0
  else .ofNat (min (min (lost.toNat * 256) (2 ^ 128 - 1) / expected) 255)

/-- Produce statistics and advance the interval baselines; `none` stands for
the overflow of the extended sequence number. -/
def SequenceTracker.snapshot
    (tracker : SequenceTracker) : Option (SequenceTracker × SequenceSnapshot) :=
  if !tracker.validated then
    some (tracker, .zero)
  else
    let extended := tracker.cycles + tracker.maxSequence.toNat
    if 2 ^ 64 ≤ extended then
      none
    else
      let expected := saturatingAdd (extended - tracker.baseSequence.toNat) 1
      let expectedInterval := expected - tracker.expectedPrior
      let receivedInterval := tracker.received - tracker.receivedPrior
      let lostInterval := signedDifference expectedInterval receivedInterval
      some
        ({ tracker with
            expectedPrior := expected
            receivedPrior := tracker.received },
          { extendedHighestSequence := extended
            expectedPackets := expected
            receivedPackets := tracker.received
            cumulativeLost := signedDifference expected tracker.received
            fractionLost := intervalFraction lostInterval expectedInterval })

/-- One event at the receiver: a packet with its true index, or a report. -/
inductive Reception
  | packet (index : Nat)
  | report

/-- What the tracker answers to an event. -/
inductive ReceptionOutcome
  | observed (disposition : SequenceDisposition)
  | reported (snapshot : SequenceSnapshot)
  | overflowed

namespace Reception

variable {index : Nat} {events : List Reception}

/-- Show the tracker the low bits of a packet's index, or take a report. -/
def receive
    (tracker : SequenceTracker) : Reception → SequenceTracker × ReceptionOutcome
  | .packet index =>
    let (after, disposition) := tracker.observe (.ofNat index)
    (after, .observed disposition)
  | .report =>
    match tracker.snapshot with
    | some (after, snapshot) => (after, .reported snapshot)
    | none => (tracker, .overflowed)

/-- The tracker after a run of events. -/
def trackerAfter (events : List Reception) : SequenceTracker := after receive .new events

/-- What the tracker answers to an event after the run `earlier`. -/
def answer (earlier : List Reception) (event : Reception) : ReceptionOutcome :=
  output receive .new earlier event

/-- All answers of a run. -/
def answers (events : List Reception) : List ReceptionOutcome := outputs receive .new events

/-- The true indices of the packets of a run. -/
def indices (events : List Reception) : List Nat := events.filterMap fun
    | .packet index => some index
    | .report => none

/-- The running maximum of the indices. -/
def highest (events : List Reception) : Nat := (indices events).foldl max 0

/-- The index that validates the source. -/
def base (events : List Reception) : Nat := (indices events).getD 1 0

/-- The event is a report, or a packet within the windows: the second packet
follows the first, and every later one lies close to the highest one. -/
def Windowed (earlier : List Reception) : Reception → Prop
  | .report => True
  | .packet index =>
    index < 2 ^ 48 ∧
      match indices earlier with
      | [] => True
      | [first] => index = first + 1
      | _ =>
        highest earlier < index + maxMisorder.toNat + 1 ∧ index < highest earlier + maxDropout.toNat

/-- Whether an answer accepts a packet. -/
def isAccepted : ReceptionOutcome → Bool
  | .observed disposition => disposition.accepted
  | _ => false

/-- How many packets of a run were accepted. -/
def acceptedPackets (events : List Reception) : Nat := (answers events).countP isAccepted

/-- The report of an answer. -/
def reportOf : ReceptionOutcome → Option SequenceSnapshot
  | .reported snapshot => some snapshot
  | _ => none

/-- The previous report of a run. -/
def previousReport (events : List Reception) : SequenceSnapshot :=
  ((answers events).filterMap reportOf).getLast?.getD .zero

@[simp] theorem trackerAfter_concat (events : List Reception) (last : Reception) :
    trackerAfter (events ++ [last]) = (receive (trackerAfter events) last).1 := by
  simp [trackerAfter]

theorem answer_eq (events : List Reception) (last : Reception) :
    answer events last = (receive (trackerAfter events) last).2 := rfl

theorem answers_concat (events : List Reception) (last : Reception) :
    answers (events ++ [last]) = answers events ++ [answer events last] := by
  simp [answers, answer, outputs_concat]

theorem acceptedPackets_concat (events : List Reception) (last : Reception) :
    acceptedPackets (events ++ [last]) =
      acceptedPackets events + if isAccepted (answer events last) then 1 else 0 := by
  simp [acceptedPackets, answers_concat, List.countP_cons]

theorem previousReport_concat (events : List Reception) (last : Reception) :
    previousReport (events ++ [last]) =
      (reportOf (answer events last)).getD (previousReport events) := by
  rw [previousReport, answers_concat, List.filterMap_append]
  cases reported : reportOf (answer events last) with
  | none => simp [previousReport, reported]
  | some snapshot => simp [reported]

@[simp] theorem indices_concat_packet (events : List Reception) (index : Nat) :
    indices (events ++ [.packet index]) = indices events ++ [index] := by
  simp [indices]

@[simp] theorem indices_concat_report (events : List Reception) :
    indices (events ++ [.report]) = indices events := by
  simp [indices]

theorem highest_concat_packet (events : List Reception) (index : Nat) :
    highest (events ++ [.packet index]) = max (highest events) index := by
  simp [highest, List.foldl_append]

@[simp] theorem highest_concat_report (events : List Reception) :
    highest (events ++ [.report]) = highest events := by
  simp [highest]

@[simp] theorem base_concat_report (events : List Reception) :
    base (events ++ [.report]) = base events := by
  simp [base]

/-- The wire numbers of two indices within the windows tell their order. -/
theorem wire_delta
    {highest : Nat} (lower : highest < index + maxMisorder.toNat + 1)
    (upper : index < highest + maxDropout.toNat) :
    (highest < index ∧ ofNat index - ofNat highest ≠ 0 ∧ ofNat index - ofNat highest < maxDropout) ∨
    (index = highest ∧ ofNat index - ofNat highest = 0) ∨
    (index < highest ∧ ofNat index - ofNat highest ≠ 0 ∧
      ¬ofNat index - ofNat highest < maxDropout ∧
      ¬ofNat index - ofNat highest ≤ 65535 - maxMisorder) := by
  have misorder : maxMisorder.toNat = 100 := rfl
  have dropout : maxDropout.toNat = 3000 := rfl
  have limit : (65535 - maxMisorder).toNat = 65435 := rfl
  have delta : (ofNat index - ofNat highest).toNat =
      (65536 - highest % 65536 + index % 65536) % 65536 := by
    simp [UInt16.toNat_sub]
  have zero_iff : ofNat index - ofNat highest = 0 ↔
      (65536 - highest % 65536 + index % 65536) % 65536 = 0 := by
    rw [← UInt16.toNat_inj, delta]
    rfl
  rw [misorder] at lower
  rw [dropout] at upper
  simp only [ne_eq, zero_iff, lt_iff_toNat_lt, le_iff_toNat_le, delta, dropout, limit]
  omega

/-- The wire numbers wrap exactly where the indices pass a multiple of the
modulus. -/
theorem wire_lt (index highest : Nat) : ofNat index < ofNat highest ↔
      index % 65536 < highest % 65536 := by
  simp [lt_iff_toNat_lt]

/-- Small counters do not saturate. -/
theorem saturatingAdd_of_le
    {left right : Nat} (small : left + right ≤ 2 ^ 64 - 1) :
    saturatingAdd left right = left + right :=
  Nat.min_eq_left small

/-- Where the tracker stands on a validated source. -/
structure Follows
    (tracker : SequenceTracker) (base highest : Nat) : Prop where
  validated : tracker.validated = true
  started : tracker.baseSequence = .ofNat base
  maximum : tracker.maxSequence = .ofNat highest
  cycles : tracker.cycles + highest % 65536 = base % 65536 + (highest - base)
  order : base ≤ highest
  bound : highest < 2 ^ 48

/-- A packet within the windows is accepted, and the tracker follows the
highest index. -/
theorem Follows.observe
    {tracker : SequenceTracker} {base highest : Nat}
    (follows : Follows tracker base highest) (bound : index < 2 ^ 48)
    (lower : highest < index + maxMisorder.toNat + 1) (upper : index < highest + maxDropout.toNat) :
    Follows (tracker.observe (.ofNat index)).1 base (max highest index) ∧
      (tracker.observe (.ofNat index)).2.accepted = true ∧
      (tracker.observe (.ofNat index)).1.received = saturatingAdd tracker.received 1 ∧
      (tracker.observe (.ofNat index)).1.expectedPrior = tracker.expectedPrior ∧
      (tracker.observe (.ofNat index)).1.receivedPrior = tracker.receivedPrior := by
  obtain ⟨validated, baseWire, maximum, cycles, order, below⟩ := follows
  have dropout : maxDropout.toNat = 3000 := rfl
  rcases wire_delta lower upper with
    ⟨later, moved, near⟩ | ⟨same, still⟩ | ⟨earlier, moved, far, close⟩
  · rw [Nat.max_eq_right (by omega)]
    by_cases wraps : index % 65536 < highest % 65536
    · -- The index passed a multiple of the modulus, once.
      have observed : tracker.observe (.ofNat index) =
          (({ tracker with
              cycles := saturatingAdd tracker.cycles rtpSequenceModulus
              maxSequence := .ofNat index }).count, .wrapped) := by
        simp [SequenceTracker.observe, validated, maximum, moved, near, wire_lt, wraps]
      have counted : saturatingAdd tracker.cycles rtpSequenceModulus = tracker.cycles + 65536 :=
        saturatingAdd_of_le (by simp only [rtpSequenceModulus]; omega)
      rw [observed, counted]
      refine ⟨⟨validated, baseWire, rfl, ?_, by omega, bound⟩, rfl, rfl, rfl, rfl⟩
      simp only [SequenceTracker.count]
      omega
    · have observed : tracker.observe (.ofNat index) =
          (({ tracker with maxSequence := .ofNat index }).count, .inOrder) := by
        simp [SequenceTracker.observe, validated, maximum, moved, near, wire_lt, wraps]
      rw [observed]
      refine ⟨⟨validated, baseWire, rfl, ?_, by omega, bound⟩, rfl, rfl, rfl, rfl⟩
      simp only [SequenceTracker.count]
      omega
  · have observed : tracker.observe (.ofNat index) =
        (tracker.count, .reorderedOrDuplicate) := by
      simp [SequenceTracker.observe, validated, maximum, still]
    rw [observed, same, Nat.max_self]
    exact ⟨⟨validated, baseWire, maximum, cycles, order, below⟩, rfl, rfl, rfl, rfl⟩
  · have observed : tracker.observe (.ofNat index) =
        (tracker.count, .reorderedOrDuplicate) := by
      simp [SequenceTracker.observe, validated, maximum, moved, far, close]
    rw [observed, Nat.max_eq_left (by omega)]
    exact ⟨⟨validated, baseWire, maximum, cycles, order, below⟩, rfl, rfl, rfl, rfl⟩

/-- A difference from a small number is cut off below only. -/
theorem signedDifference_eq
    {left : Nat} (small : left < 2 ^ 63) (right : Nat) :
    signedDifference left right = max ((left : Int) - right) (-2 ^ 63) := by
  unfold signedDifference
  split_ifs <;> omega

/-- The interval fraction of a positive loss is its floor, capped at 255. -/
theorem intervalFraction_eq
    {lost : Int} {expected : Nat} (small : expected < 2 ^ 63) (bounded : lost ≤ expected) :
    ((intervalFraction lost expected).toNat : Int) =
      if 0 < lost then min 255 (256 * lost / expected) else 0 := by
  unfold intervalFraction
  by_cases positive : 0 < lost
  · have expectedPositive : ¬(lost ≤ 0 ∨ expected = 0) := by omega
    rw [if_neg expectedPositive, if_pos positive]
    obtain ⟨count, rfl⟩ := Int.eq_ofNat_of_zero_le (Int.le_of_lt positive)
    have unsaturated : min (count * 256) (2 ^ 128 - 1) = count * 256 := by omega
    rw [Int.toNat_natCast, unsaturated]
    have capped : min (count * 256 / expected) 255 < 2 ^ 8 := by omega
    have quotient : ((256 * count / expected : Nat) : Int) =
        256 * (count : Int) / (expected : Int) := by
      rw [Int.natCast_ediv, Int.natCast_mul]
      rfl
    rw [UInt8.toNat_ofNat', Nat.mod_eq_of_lt capped, ← quotient, Nat.mul_comm count 256]
    omega
  · have absent : lost ≤ 0 ∨ expected = 0 := by omega
    rw [if_pos absent, if_neg positive]
    rfl

/-- What a report says about the packets so far. -/
structure Reports (events : List Reception) (report : SequenceSnapshot) : Prop where
  extended : report.extendedHighestSequence = base events % 2 ^ 16 + (highest events - base events)
  expected : report.expectedPackets = highest events - base events + 1
  received : report.receivedPackets = min (acceptedPackets events) (2 ^ 64 - 1)
  lost : report.cumulativeLost =
    max ((report.expectedPackets : Int) - report.receivedPackets) (-2 ^ 63)
  fraction :
    let expected : Int := report.expectedPackets - (previousReport events).expectedPackets
    let received : Int := report.receivedPackets - (previousReport events).receivedPackets
    (report.fractionLost.toNat : Int) =
      if 0 < expected - received then min 255 (256 * (expected - received) / expected)
      else 0

/-- Where the tracker stands after a run on a validated source. -/
structure Tracked (events : List Reception) : Prop where
  two : 2 ≤ (indices events).length
  follows : Follows (trackerAfter events) (base events) (highest events)
  received : (trackerAfter events).received = min (acceptedPackets events) (2 ^ 64 - 1)
  expectedPrior : (trackerAfter events).expectedPrior = (previousReport events).expectedPackets
  receivedPrior : (trackerAfter events).receivedPrior = (previousReport events).receivedPackets
  expectedGrows : (trackerAfter events).expectedPrior ≤ highest events - base events + 1
  receivedGrows : (trackerAfter events).receivedPrior ≤ (trackerAfter events).received

/-- A report on a validated source says what it should and moves only the
interval baselines. -/
theorem Tracked.snapshot (tracked : Tracked events) :
    ∃ report, Reports events report ∧ (trackerAfter events).snapshot =
        some ({ trackerAfter events with
          expectedPrior := report.expectedPackets
          receivedPrior := report.receivedPackets }, report) ∧
      report.receivedPackets = (trackerAfter events).received := by
  obtain ⟨validated, started, maximum, cycles, order, bound⟩ := tracked.follows
  have received := tracked.received
  have expectedPrior := tracked.expectedPrior
  have receivedPrior := tracked.receivedPrior
  have expectedGrows := tracked.expectedGrows
  have receivedGrows := tracked.receivedGrows
  have highestWire : (trackerAfter events).maxSequence.toNat = highest events % 65536 := by
    rw [maximum]
    simp
  have baseWire : (trackerAfter events).baseSequence.toNat = base events % 65536 := by
    rw [started]
    simp
  have extended : (trackerAfter events).cycles + (trackerAfter events).maxSequence.toNat =
        base events % 65536 + (highest events - base events) := by
    rw [highestWire, cycles]
  have expected : saturatingAdd ((trackerAfter events).cycles +
      (trackerAfter events).maxSequence.toNat - (trackerAfter events).baseSequence.toNat) 1 =
          highest events - base events + 1 := by
    rw [extended, baseWire, Nat.add_sub_cancel_left, saturatingAdd_of_le (by omega)]
  have fits : ¬2 ^ 64 ≤ (trackerAfter events).cycles + (trackerAfter events).maxSequence.toNat := by
    rw [extended]
    omega
  refine ⟨{
      extendedHighestSequence := (trackerAfter events).cycles +
        (trackerAfter events).maxSequence.toNat
      expectedPackets := highest events - base events + 1
      receivedPackets := (trackerAfter events).received
      cumulativeLost := signedDifference (highest events - base events + 1)
        (trackerAfter events).received
      fractionLost := intervalFraction (signedDifference
          (highest events - base events + 1 - (trackerAfter events).expectedPrior)
          ((trackerAfter events).received - (trackerAfter events).receivedPrior))
        (highest events - base events + 1 - (trackerAfter events).expectedPrior) },
    ⟨extended, rfl, received, ?_, ?_⟩, ?_, rfl⟩
  · rw [signedDifference_eq (by omega)]
  · intro expectedInterval receivedInterval
    have small : highest events - base events + 1 -
        (trackerAfter events).expectedPrior < 2 ^ 63 := by
      omega
    have lost := signedDifference_eq small
      ((trackerAfter events).received - (trackerAfter events).receivedPrior)
    rw [intervalFraction_eq small (by omega), lost]
    have expectedEq : ((highest events - base events + 1 -
        (trackerAfter events).expectedPrior : Nat) : Int) = expectedInterval := by
      simp only [expectedInterval]
      omega
    have receivedEq : (((trackerAfter events).received -
        (trackerAfter events).receivedPrior : Nat) : Int) = receivedInterval := by
      simp only [receivedInterval]
      omega
    have receivedBound : receivedInterval ≤ 2 ^ 64 - 1 := by omega
    rw [expectedEq, receivedEq]
    by_cases positive : 0 < expectedInterval - receivedInterval
    · rw [Int.max_eq_left (by omega), if_pos positive]
    · rw [if_neg (by omega), if_neg positive]
  · simp only [SequenceTracker.snapshot, validated, Bool.not_true,
      Bool.false_eq_true, ↓reduceIte, fits, expected]

/-- Before the source is validated the tracker has counted and reported
nothing. -/
structure Unproven (events : List Reception) : Prop where
  accepted : acceptedPackets events = 0
  prior : previousReport events = .zero

/-- Where a run within the windows stands. -/
inductive Phase (events : List Reception) : Prop
  | empty
      (none : indices events = [])
      (tracker : trackerAfter events = .new)
      (unproven : Unproven events)
  | probed
      (first : Nat)
      (one : indices events = [first])
      (tracker : trackerAfter events =
        { SequenceTracker.new with maxSequence := .ofNat first, probation := 1 })
      (unproven : Unproven events)
  | tracked (tracked : Tracked events)

/-- The answer to an event is the one its true index calls for. -/
def Answered (earlier : List Reception) : Reception → Prop
  | .packet index =>
    match indices earlier with
    | [] => answer earlier (.packet index) = .observed .probation
    | [_] => answer earlier (.packet index) = .observed .sourceValidated
    | _ => isAccepted (answer earlier (.packet index)) = true
  | .report =>
    if (indices earlier).length < 2 then answer earlier .report = .reported .zero
    else ∃ report, answer earlier .report = .reported report ∧ Reports earlier report

/-- A report before the validation changes nothing. -/
theorem report_unvalidated (unvalidated : (trackerAfter events).validated = false)
    (unproven : Unproven events) :
    answer events .report = .reported .zero ∧
      trackerAfter (events ++ [.report]) = trackerAfter events ∧
      Unproven (events ++ [.report]) := by
  have reported : receive (trackerAfter events) .report =
      (trackerAfter events, .reported .zero) := by
    simp [receive, SequenceTracker.snapshot, unvalidated]
  have answered : answer events .report = .reported .zero := by
    rw [answer_eq, reported]
  refine ⟨answered, by rw [trackerAfter_concat, reported], ?_, ?_⟩
  · rw [acceptedPackets_concat, answered, unproven.accepted]
    rfl
  · rw [previousReport_concat, answered]
    rfl

/-- The first packet starts the probation. -/
theorem first_packet (none : indices events = [])
    (tracker : trackerAfter events = .new) (unproven : Unproven events) :
    Phase (events ++ [.packet index]) ∧ Answered events (.packet index) := by
  have observed : receive (trackerAfter events) (.packet index) =
      ({ SequenceTracker.new with maxSequence := .ofNat index, probation := 1 },
        .observed .probation) := by
    rw [tracker]
    rfl
  have answered : answer events (.packet index) = .observed .probation := by
    rw [answer_eq, observed]
  constructor
  · refine .probed index (by simp [none])
      (by rw [trackerAfter_concat, observed]) ⟨?_, ?_⟩
    · rw [acceptedPackets_concat, answered, unproven.accepted]
      rfl
    · rw [previousReport_concat, answered, unproven.prior]
      rfl
  · simp only [Answered, none]
    exact answered

/-- The packet after the first one validates the source. -/
theorem second_packet {first : Nat} (one : indices events = [first])
    (tracker : trackerAfter events =
      { SequenceTracker.new with maxSequence := .ofNat first, probation := 1 })
    (unproven : Unproven events)
    (bound : first + 1 < 2 ^ 48) :
    Phase (events ++ [.packet (first + 1)]) ∧ Answered events (.packet (first + 1)) := by
  have successor : ofNat (first + 1) = ofNat first + 1 := by
    simp
  have observed : receive (trackerAfter events) (.packet (first + 1)) =
      ({ SequenceTracker.new.initializeEpoch (.ofNat (first + 1)) with
        received := 1 }, .observed .sourceValidated) := by
    rw [tracker]
    simp [receive, SequenceTracker.observe, SequenceTracker.observeProbation,
      SequenceTracker.new, minSequential, SequenceTracker.initializeEpoch]
  have answered : answer events (.packet (first + 1)) = .observed .sourceValidated := by
    rw [answer_eq, observed]
  have top : highest (events ++ [.packet (first + 1)]) = first + 1 := by
    simp [highest, one]
  have bottom : base (events ++ [.packet (first + 1)]) = first + 1 := by
    simp [base, one]
  have after := trackerAfter_concat events (.packet (first + 1))
  rw [observed] at after
  have prior : previousReport (events ++ [.packet (first + 1)]) = .zero := by
    rw [previousReport_concat, answered, unproven.prior]
    rfl
  constructor
  · refine .tracked ⟨by simp [one], ?_, ?_, ?_, ?_, ?_, ?_⟩
    · rw [after, top, bottom]
      refine ⟨rfl, rfl, rfl, ?_, Nat.le_refl _, bound⟩
      simp [SequenceTracker.initializeEpoch]
    · rw [after, acceptedPackets_concat, answered, unproven.accepted]
      rfl
    · rw [after, prior]
      rfl
    · rw [after, prior]
      rfl
    · rw [after]
      exact Nat.zero_le _
    · rw [after]
      exact Nat.zero_le _
  · simp only [Answered, one]
    exact answered

/-- A later packet within the windows is accepted and counted. -/
theorem Tracked.packet (tracked : Tracked events) (bound : index < 2 ^ 48)
    (lower : highest events < index + maxMisorder.toNat + 1)
    (upper : index < highest events + maxDropout.toNat) :
    Tracked (events ++ [.packet index]) ∧ isAccepted (answer events (.packet index)) = true := by
  obtain ⟨follows, accepted, received, expectedPrior, receivedPrior⟩ :=
    tracked.follows.observe bound lower upper
  have answered : answer events (.packet index) =
      .observed ((trackerAfter events).observe (.ofNat index)).2 := rfl
  have taken : isAccepted (answer events (.packet index)) = true := by
    rw [answered]
    exact accepted
  have after : trackerAfter (events ++ [.packet index]) =
      ((trackerAfter events).observe (.ofNat index)).1 :=
    trackerAfter_concat events (.packet index)
  have bottom : base (events ++ [.packet index]) = base events := by
    simp only [base, indices_concat_packet]
    rw [List.getD_eq_getElem?_getD, List.getD_eq_getElem?_getD,
      List.getElem?_append_left (Nat.lt_of_succ_le tracked.two)]
  have prior : previousReport (events ++ [.packet index]) = previousReport events := by
    rw [previousReport_concat, answered]
    rfl
  have counted := tracked.received
  have expectedGrows := tracked.expectedGrows
  have receivedGrows := tracked.receivedGrows
  refine ⟨⟨?_, ?_, ?_, ?_, ?_, ?_, ?_⟩, taken⟩
  · have two := tracked.two
    simp only [indices_concat_packet, List.length_append, List.length_singleton]
    omega
  · rw [after, bottom, highest_concat_packet]
    exact follows
  · rw [after, received, acceptedPackets_concat, taken, counted, saturatingAdd]
    generalize 2 ^ 64 - 1 = limit
    simp only [↓reduceIte]
    omega
  · rw [after, expectedPrior, prior, tracked.expectedPrior]
  · rw [after, receivedPrior, prior, tracked.receivedPrior]
  · rw [after, expectedPrior, bottom, highest_concat_packet]
    omega
  · rw [counted] at receivedGrows
    rw [after, receivedPrior, received, saturatingAdd, counted]
    generalize 2 ^ 64 - 1 = limit at receivedGrows ⊢
    omega

/-- A report on a validated source starts the next interval. -/
theorem Tracked.report (tracked : Tracked events) :
    Tracked (events ++ [.report]) ∧ ∃ report, answer events .report = .reported report ∧
        Reports events report := by
  obtain ⟨report, reports, taken, received⟩ := tracked.snapshot
  have reported : receive (trackerAfter events) .report =
      ({ trackerAfter events with
        expectedPrior := report.expectedPackets
        receivedPrior := report.receivedPackets }, .reported report) := by
    simp [receive, taken]
  have answered : answer events .report = .reported report := by
    rw [answer_eq, reported]
  have after := trackerAfter_concat events .report
  rw [reported] at after
  have prior : previousReport (events ++ [.report]) = report := by
    rw [previousReport_concat, answered]
    rfl
  obtain ⟨validated, started, maximum, cycles, order, bound⟩ := tracked.follows
  refine ⟨⟨by simpa using tracked.two, ?_, ?_, ?_, ?_, ?_, ?_⟩, report, answered, reports⟩
  · rw [after, base_concat_report, highest_concat_report]
    exact ⟨validated, started, maximum, cycles, order, bound⟩
  · rw [after, acceptedPackets_concat, answered]
    exact tracked.received
  · rw [after, prior]
  · rw [after, prior]
  · rw [after, base_concat_report, highest_concat_report]
    exact Nat.le_of_eq reports.expected
  · rw [after]
    exact Nat.le_of_eq received

/-- An event within the windows is answered as its true index calls for, and leads to
the next phase. -/
theorem Phase.step {event : Reception} (phase : Phase events)
    (windowed : Windowed events event) :
    Phase (events ++ [event]) ∧ Answered events event := by
  cases phase with
  | empty none tracker unproven =>
    cases event with
    | packet index => exact first_packet none tracker unproven
    | report =>
      obtain ⟨answered, same, still⟩ := report_unvalidated (by rw [tracker]; rfl) unproven
      refine ⟨.empty (by simpa using none) (same.trans tracker) still, ?_⟩
      simpa [Answered, none] using answered
  | probed first one tracker unproven =>
    cases event with
    | packet index =>
      obtain ⟨bound, next⟩ := windowed
      simp only [one] at next
      subst next
      exact second_packet one tracker unproven bound
    | report =>
      obtain ⟨answered, same, still⟩ := report_unvalidated (by rw [tracker]; rfl) unproven
      refine ⟨.probed first (by simpa using one) (same.trans tracker) still, ?_⟩
      simpa [Answered, one] using answered
  | tracked tracked =>
    obtain ⟨first, second, rest, several⟩ :
        ∃ first second rest, indices events = first :: second :: rest := by
      have two := tracked.two
      match listed : indices events with
      | [] => simp [listed] at two
      | [_] => simp [listed] at two
      | first :: second :: rest => exact ⟨first, second, rest, rfl⟩
    cases event with
    | packet index =>
      obtain ⟨bound, window⟩ := windowed
      simp only [several] at window
      obtain ⟨kept, accepted⟩ := tracked.packet bound window.1 window.2
      refine ⟨.tracked kept, ?_⟩
      simpa only [Answered, several] using accepted
    | report =>
      obtain ⟨kept, reported⟩ := tracked.report
      refine ⟨.tracked kept, ?_⟩
      have two := tracked.two
      simp only [Answered]
      rw [if_neg (by omega)]
      exact reported

/-- Every run within the windows is in one of the phases. -/
theorem phase_run
    (events : List Reception) (windowed : AllSteps Windowed events) :
    Phase events := by
  induction events using List.reverseRecOn with
  | nil => exact .empty rfl rfl ⟨rfl, rfl⟩
  | append_singleton earlier event ih =>
    obtain ⟨prior, last⟩ := (allSteps_concat _ _ _).mp windowed
    exact ((ih prior).step last).1

/-- In every run of true indices within the windows, the first packet is on
probation, the second validates the source and every later one is accepted;
and every report gives the extended sequence number, the expected and the
received packets, the loss, and the interval fraction of the true indices,
with the counters saturating at 64 bits. -/
theorem sequence_reconstructed
    (events : List Reception) (windowed : AllSteps Windowed events) :
    AllSteps Answered events := by
  intro earlier event later split
  have whole : AllSteps Windowed (earlier ++ event :: later) := split ▸ windowed
  have prior := whole.of_append
  exact ((phase_run earlier prior).step (windowed earlier event later split)).2

/-- A packet passing the 16-bit boundary is counted into the report. -/
theorem sequence_reconstructed_wrap :
    ∃ report, answer [.packet 65534, .packet 65535, .packet 65536] .report = .reported report ∧
      Reports [.packet 65534, .packet 65535, .packet 65536] report := by
  have windowed : AllSteps Windowed
      ([.packet 65534, .packet 65535, .packet 65536] ++ [.report]) := by
    refine (allSteps_concat _ _ _).mpr ⟨?_, trivial⟩
    refine (allSteps_concat _ [_, _] _).mpr ⟨?_, by decide, by decide, by decide⟩
    refine (allSteps_concat _ [_] _).mpr ⟨?_, by decide, rfl⟩
    exact (allSteps_concat _ [] _).mpr ⟨allSteps_nil _, by decide, trivial⟩
  exact sequence_reconstructed _ windowed _ .report [] rfl

/-- Two packets, the second of which is repeated. -/
def flood (repeats : Nat) : List Reception :=
  [.packet 0, .packet 1] ++ List.replicate repeats (.packet 1)

theorem flood_succ (repeats : Nat) :
    flood (repeats + 1) = flood repeats ++ [.packet 1] := by
  simp [flood, List.replicate_succ']

theorem indices_flood (repeats : Nat) :
    indices (flood repeats) = 0 :: 1 :: List.replicate repeats 1 := by
  induction repeats with
  | zero => rfl
  | succ repeats ih =>
    rw [flood_succ, indices_concat_packet, ih, List.replicate_succ']
    rfl

theorem highest_flood (repeats : Nat) : highest (flood repeats) = 1 := by
  induction repeats with
  | zero => rfl
  | succ repeats ih =>
    rw [flood_succ, highest_concat_packet, ih]
    rfl

/-- Repetitions lie within the windows. -/
theorem windowed_flood (repeats : Nat) : AllSteps Windowed (flood repeats) := by
  induction repeats with
  | zero =>
    refine (allSteps_concat _ [_] _).mpr ⟨?_, by decide, rfl⟩
    exact (allSteps_concat _ [] _).mpr ⟨allSteps_nil _, by decide, trivial⟩
  | succ repeats ih =>
    rw [flood_succ]
    refine (allSteps_concat _ _ _).mpr ⟨ih, by decide, ?_⟩
    rw [indices_flood, highest_flood]
    exact ⟨by decide, by decide⟩

theorem tracked_flood (repeats : Nat) : Tracked (flood repeats) := by
  cases phase_run (flood repeats) (windowed_flood repeats) with
  | empty none => simp [indices_flood] at none
  | probed first one => simp [indices_flood] at one
  | tracked tracked => exact tracked

/-- Every repetition is accepted. -/
theorem acceptedPackets_flood (repeats : Nat) :
    acceptedPackets (flood repeats) = repeats + 1 := by
  induction repeats with
  | zero => rfl
  | succ repeats ih =>
    have highest := highest_flood repeats
    obtain ⟨-, accepted⟩ := (tracked_flood repeats).packet
      (show 1 < 2 ^ 48 by decide) (by rw [highest]; decide)
      (by rw [highest]; decide)
    rw [flood_succ, acceptedPackets_concat, accepted, ih]
    rfl

/-- After 2^64 repetitions fewer packets are reported than were accepted. -/
theorem flood_underreported :
    AllSteps Windowed (flood (2 ^ 64)) ∧
      ∃ report, answer (flood (2 ^ 64)) .report = .reported report ∧
        report.receivedPackets ≠ acceptedPackets (flood (2 ^ 64)) := by
  refine ⟨windowed_flood _, ?_⟩
  obtain ⟨-, report, answered, reports⟩ := (tracked_flood (2 ^ 64)).report
  refine ⟨report, answered, ?_⟩
  have received := reports.received
  rw [acceptedPackets_flood] at received ⊢
  intro same
  rw [same] at received
  exact absurd received (by decide)

end Reception

end Rtp
end LiveAISIP
