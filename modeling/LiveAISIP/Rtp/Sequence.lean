import LiveAISIP.Library.Run
import Mathlib.Algebra.Group.Nat.Defs

/-!
# RTP sequence validation

The tracker of `rtp/stats/sequence.rs`: sequential probation before a source
is trusted, forward and wrapped advances, a window for late packets, and a
two-packet confirmation before a large jump restarts the epoch.

The confirmation is remembered in `badSequence`, which an epoch also writes
when it begins.  The results at the end say exactly when a restart was
confirmed by a rejected jump of the same epoch, and when it was only matched
by the marker the epoch started with.
-/

namespace LiveAISIP
namespace Rtp

open Run

/-- Sequence modulus for the 16-bit wire field. -/
def rtpSequenceModulus : Nat := 2 ^ 16

/-- Maximum normal forward jump before a source restart is suspected. -/
def maxDropout : UInt16 := 3000

/-- Maximum tolerated backward reordering window. -/
def maxMisorder : UInt16 := 100

/-- Sequential packets required to establish a new source. -/
def minSequential : UInt8 := 2

/-- Addition of 64-bit counters that stays at the largest value. -/
def saturatingAdd (left right : Nat) : Nat := min (left + right) (2 ^ 64 - 1)

/-- Result of observing one RTP sequence number. -/
inductive SequenceDisposition
  | probation
  | sourceValidated
  | inOrder
  | wrapped
  | reorderedOrDuplicate
  | largeJumpRejected
  | sourceRestarted
  deriving DecidableEq

/-- The sequence number lets the packet in. -/
def SequenceDisposition.accepted : SequenceDisposition → Bool
  | .probation | .largeJumpRejected => false
  | _ => true

/-- Stateful sequence validator and loss accumulator. -/
structure SequenceTracker where
  probation : UInt8
  maxSequence : UInt16
  badSequence : UInt16
  baseSequence : UInt16
  cycles : Nat
  received : Nat
  expectedPrior : Nat
  receivedPrior : Nat
  validated : Bool
  deriving DecidableEq

namespace SequenceTracker

/-- An unvalidated tracker requiring two sequential packets. -/
def new : SequenceTracker where
  probation := minSequential
  maxSequence := 0
  badSequence := 0
  baseSequence := 0
  cycles := 0
  received := 0
  expectedPrior := 0
  receivedPrior := 0
  validated := false

/-- Begin a source epoch at one sequence number. -/
def initializeEpoch
    (_tracker : SequenceTracker) (sequence : UInt16) : SequenceTracker where
  baseSequence := sequence
  maxSequence := sequence
  badSequence := sequence + 1
  cycles := 0
  received := 0
  expectedPrior := 0
  receivedPrior := 0
  probation := 0
  validated := true

/-- Observe a sequence number before the source is validated. -/
def observeProbation
    (tracker : SequenceTracker) (sequence : UInt16) : SequenceTracker × SequenceDisposition :=
  if tracker.probation = minSequential then
    ({ tracker with
        maxSequence := sequence
        probation := tracker.probation - 1 }, .probation)
  else if sequence = tracker.maxSequence + 1 then
    let advanced := { tracker with
      maxSequence := sequence
      probation := tracker.probation - 1 }
    if advanced.probation = 0 then
      ({ advanced.initializeEpoch sequence with received := 1 }, .sourceValidated)
    else
      (advanced, .probation)
  else
    ({ tracker with
        maxSequence := sequence
        probation := minSequential - 1 }, .probation)

/-- Count one accepted packet. -/
def count (tracker : SequenceTracker) : SequenceTracker :=
  { tracker with received := saturatingAdd tracker.received 1 }

/-- Observe one RTP sequence number. -/
def observe
    (tracker : SequenceTracker) (sequence : UInt16) : SequenceTracker × SequenceDisposition :=
  if !tracker.validated then
    tracker.observeProbation sequence
  else
    let delta := sequence - tracker.maxSequence
    if delta = 0 then
      (tracker.count, .reorderedOrDuplicate)
    else if delta < maxDropout then
      if sequence < tracker.maxSequence then
        (({ tracker with
            cycles := saturatingAdd tracker.cycles rtpSequenceModulus
            maxSequence := sequence }).count, .wrapped)
      else
        (({ tracker with maxSequence := sequence }).count, .inOrder)
    else if delta ≤ 65535 - maxMisorder then
      if sequence = tracker.badSequence then
        ({ tracker.initializeEpoch sequence with received := 1 }, .sourceRestarted)
      else
        ({ tracker with badSequence := sequence + 1 }, .largeJumpRejected)
    else
      (tracker.count, .reorderedOrDuplicate)

/-- A validated source is shown a sequence number outside both the forward
window and the reordering window. -/
def LargeJump (tracker : SequenceTracker) (sequence : UInt16) : Prop :=
  tracker.validated = true ∧ maxDropout ≤ sequence - tracker.maxSequence ∧
    sequence - tracker.maxSequence ≤ 65535 - maxMisorder

instance (tracker : SequenceTracker) (sequence : UInt16) : Decidable (tracker.LargeJump sequence) :=
  inferInstanceAs (Decidable (_ ∧ _ ∧ _))

@[simp] theorem observe_unvalidated
    {tracker : SequenceTracker} (unvalidated : tracker.validated = false) (sequence : UInt16) :
    tracker.observe sequence = tracker.observeProbation sequence := by
  simp [observe, unvalidated]

@[simp] theorem count_baseSequence (tracker : SequenceTracker) :
    tracker.count.baseSequence = tracker.baseSequence := rfl

@[simp] theorem count_badSequence (tracker : SequenceTracker) :
    tracker.count.badSequence = tracker.badSequence := rfl

@[simp] theorem count_validated (tracker : SequenceTracker) :
    tracker.count.validated = tracker.validated := rfl

/-- What one observation can do: a restart and a rejection need a large jump,
a validation begins an epoch, and every other observation keeps the epoch's
base and restart marker. -/
theorem observe_cases (tracker : SequenceTracker) (sequence : UInt16) :
    (tracker.LargeJump sequence ∧ sequence = tracker.badSequence ∧ tracker.observe sequence =
          ({ tracker.initializeEpoch sequence with received := 1 }, .sourceRestarted)) ∨
      (tracker.LargeJump sequence ∧ sequence ≠ tracker.badSequence ∧ tracker.observe sequence =
          ({ tracker with badSequence := sequence + 1 }, .largeJumpRejected)) ∨
      (¬tracker.LargeJump sequence ∧ tracker.validated = false ∧
        (tracker.observe sequence).2 = .sourceValidated ∧
        (tracker.observe sequence).1.baseSequence = sequence ∧
        (tracker.observe sequence).1.badSequence = sequence + 1 ∧
        (tracker.observe sequence).1.validated = true) ∨
      (¬tracker.LargeJump sequence ∧ (tracker.observe sequence).2 ≠ .sourceValidated ∧
        (tracker.observe sequence).2 ≠ .sourceRestarted ∧
        (tracker.observe sequence).2 ≠ .largeJumpRejected ∧
        (tracker.observe sequence).1.baseSequence = tracker.baseSequence ∧
        (tracker.observe sequence).1.badSequence = tracker.badSequence ∧
        (tracker.observe sequence).1.validated = tracker.validated) := by
  cases validated : tracker.validated with
  | false =>
    right; right
    have noJump : ¬tracker.LargeJump sequence := by
      simp [LargeJump, validated]
    rw [observe_unvalidated validated]
    simp only [observeProbation, initializeEpoch, noJump, not_false_eq_true, true_and]
    split_ifs <;> simp [validated]
  | true =>
    have jump_iff : tracker.LargeJump sequence ↔ maxDropout ≤ sequence - tracker.maxSequence ∧
          sequence - tracker.maxSequence ≤ 65535 - maxMisorder := by
      simp [LargeJump, validated]
    by_cases still : sequence - tracker.maxSequence = 0
    · right; right; right
      have noJump : ¬tracker.LargeJump sequence := by
        rw [jump_iff, still]
        decide
      simp [observe, validated, still, noJump]
    by_cases near : sequence - tracker.maxSequence < maxDropout
    · right; right; right
      have noJump : ¬tracker.LargeJump sequence := by
        rw [jump_iff]
        exact fun jump => absurd jump.1 (UInt16.not_le.mpr near)
      simp only [observe, validated, still, near, noJump]
      split_ifs <;> simp_all
    by_cases far : sequence - tracker.maxSequence ≤ 65535 - maxMisorder
    · have jump : tracker.LargeJump sequence := jump_iff.mpr ⟨UInt16.not_lt.mp near, far⟩
      by_cases confirmed : sequence = tracker.badSequence
      · left
        refine ⟨jump, confirmed, ?_⟩
        simp [observe, validated, near, far, still, ← confirmed]
      · right; left
        exact ⟨jump, confirmed, by
          simp [observe, validated, near, far, still, confirmed]⟩
    · right; right; right
      have noJump : ¬tracker.LargeJump sequence := by
        rw [jump_iff]
        exact fun jump => far jump.2
      simp [observe, validated, still, near, far, noJump]

end SequenceTracker

/-- The tracker after a run of observations from a new tracker. -/
def trackerAfter (observed : List UInt16) : SequenceTracker :=
  after SequenceTracker.observe SequenceTracker.new observed

/-- What the tracker answers to `sequence` after the run `earlier`. -/
def disposition
    (earlier : List UInt16) (sequence : UInt16) : SequenceDisposition :=
  output SequenceTracker.observe SequenceTracker.new earlier sequence

theorem disposition_eq (earlier : List UInt16) (sequence : UInt16) : disposition earlier sequence =
      ((trackerAfter earlier).observe sequence).2 := rfl

/-- The answers that begin a source epoch. -/
def BeginsEpoch (answer : SequenceDisposition) : Prop :=
  answer = .sourceValidated ∨ answer = .sourceRestarted

/-- No observation of `later`, made after the run `earlier`, begins an
epoch. -/
def SameEpoch (earlier later : List UInt16) : Prop := AllSteps
    (fun before sequence =>
      ¬BeginsEpoch (disposition (earlier ++ before) sequence)) later

/-- A restart on `sequence` is confirmed: the sequence number before it was
rejected as a large jump after the current epoch began. -/
def RestartConfirmed (earlier : List UInt16) (sequence : UInt16) : Prop :=
  disposition earlier sequence = .sourceRestarted →
    ∃ before between, earlier = before ++ (sequence - 1) :: between ∧
      disposition before (sequence - 1) = .largeJumpRejected ∧
      SameEpoch (before ++ [sequence - 1]) between

/-- A large jump was observed after the current epoch began. -/
def JumpInEpoch (earlier : List UInt16) : Prop :=
  ∃ before jump between, earlier = before ++ jump :: between ∧
    (trackerAfter before).LargeJump jump ∧
    SameEpoch before (jump :: between)

/-- `sequence` is a large jump to the packet after the epoch's own base, and
the epoch has seen no large jump before. -/
def MatchesEpochMarker (earlier : List UInt16) (sequence : UInt16) : Prop :=
  (trackerAfter earlier).LargeJump sequence ∧ sequence = (trackerAfter earlier).baseSequence + 1 ∧
    ¬JumpInEpoch earlier

theorem sameEpoch_concat
    (earlier later : List UInt16) (last : UInt16) :
    SameEpoch earlier (later ++ [last]) ↔ SameEpoch earlier later ∧
        ¬BeginsEpoch (disposition (earlier ++ later) last) :=
  allSteps_concat _ _ _

/-- A run has a large jump in its current epoch when its last observation did
not begin an epoch and either was such a jump or came after one. -/
theorem jumpInEpoch_concat (earlier : List UInt16) (last : UInt16) :
    JumpInEpoch (earlier ++ [last]) ↔ ¬BeginsEpoch (disposition earlier last) ∧
        (JumpInEpoch earlier ∨ (trackerAfter earlier).LargeJump last) := by
  constructor
  · rintro ⟨before, jump, between, split, isJump, same⟩
    rcases List.eq_nil_or_concat between with rfl | ⟨shorter, final, rfl⟩
    · obtain ⟨rfl, lastEq⟩ := List.append_inj' split rfl
      cases lastEq
      have single := (sameEpoch_concat earlier [] last).mp same
      exact ⟨by simpa using single.2, .inr isJump⟩
    · have reassociated :
          earlier ++ [last] = (before ++ jump :: shorter) ++ [final] := by
        simpa using split
      obtain ⟨rfl, lastEq⟩ := List.append_inj' reassociated rfl
      cases lastEq
      obtain ⟨sameShorter, quiet⟩ :=
        (sameEpoch_concat before (jump :: shorter) last).mp (by simpa using same)
      exact ⟨quiet, .inl ⟨before, jump, shorter, rfl, isJump, sameShorter⟩⟩
  · rintro ⟨quiet, ⟨before, jump, between, rfl, isJump, same⟩ | isJump⟩
    · refine ⟨before, jump, between ++ [last], by simp, isJump, ?_⟩
      exact (sameEpoch_concat before (jump :: between) last).mpr ⟨same, quiet⟩
    · refine ⟨earlier, last, [], rfl, isJump, ?_⟩
      exact (sameEpoch_concat earlier [] last).mpr ⟨allSteps_nil _, by simpa using quiet⟩

/-- The restart marker of a validated tracker: still the one its epoch began
with, or the successor of a jump rejected in the same epoch. -/
def MarkerExplained (earlier : List UInt16) (tracker : SequenceTracker) : Prop :=
  tracker.validated = true →
    (¬JumpInEpoch earlier ∧ tracker.badSequence = tracker.baseSequence + 1) ∨ (JumpInEpoch earlier ∧
        ∃ before jump between, earlier = before ++ jump :: between ∧
          disposition before jump = .largeJumpRejected ∧
          SameEpoch (before ++ [jump]) between ∧
          tracker.badSequence = jump + 1)

/-- One observation keeps the explanation of the restart marker. -/
theorem markerExplained_observe
    (earlier : List UInt16) (sequence : UInt16)
    (explained : MarkerExplained earlier (trackerAfter earlier)) :
    MarkerExplained (earlier ++ [sequence]) ((trackerAfter earlier).observe sequence).1 := by
  intro validated
  rcases (trackerAfter earlier).observe_cases sequence with
    ⟨-, -, restarted⟩ | ⟨jump, -, rejected⟩ | ⟨-, -, accepted, base, bad, -⟩ |
      ⟨noJump, notValidated, notRestarted, -, base, bad, kept⟩
  · -- A restart opens an epoch, so nothing of the past is in it.
    left
    refine ⟨?_, by rw [restarted]; rfl⟩
    rw [jumpInEpoch_concat, disposition_eq, restarted]
    exact fun inEpoch => inEpoch.1 (.inr rfl)
  · right
    have quiet : ¬BeginsEpoch (disposition earlier sequence) := by
      rw [disposition_eq, rejected]
      simp [BeginsEpoch]
    refine ⟨(jumpInEpoch_concat _ _).mpr ⟨quiet, .inr jump⟩,
      earlier, sequence, [], rfl, ?_, allSteps_nil _, by rw [rejected]⟩
    rw [disposition_eq, rejected]
  · left
    refine ⟨?_, by rw [base, bad]⟩
    rw [jumpInEpoch_concat, disposition_eq, accepted]
    exact fun inEpoch => inEpoch.1 (.inl rfl)
  · have quiet : ¬BeginsEpoch (disposition earlier sequence) := by
      rintro (isValidated | isRestarted)
      · exact notValidated isValidated
      · exact notRestarted isRestarted
    rw [base, bad, jumpInEpoch_concat]
    rcases explained (kept ▸ validated) with
      ⟨noneBefore, marker⟩ | ⟨jumped, before, jump, between, rfl, wasRejected, same, marker⟩
    · left
      exact ⟨fun inEpoch => inEpoch.2.elim noneBefore noJump, marker⟩
    · right
      refine ⟨⟨quiet, .inl jumped⟩, before, jump, between ++ [sequence],
        by simp, wasRejected, ?_, marker⟩
      exact (sameEpoch_concat _ _ _).mpr ⟨same, by simpa using quiet⟩

/-- The restart marker is explained after every run of observations. -/
theorem markerExplained_trackerAfter (observed : List UInt16) :
    MarkerExplained observed (trackerAfter observed) :=
  history_invariant (fun validated => by cases validated) markerExplained_observe observed

/-- A rejected observation is a large jump of its epoch. -/
theorem jumpInEpoch_of_rejected
    {before between : List UInt16} {jump : UInt16}
    (rejected : disposition before jump = .largeJumpRejected)
    (same : SameEpoch (before ++ [jump]) between) :
    JumpInEpoch (before ++ jump :: between) := by
  have isJump : (trackerAfter before).LargeJump jump := by
    rw [disposition_eq] at rejected
    rcases (trackerAfter before).observe_cases jump with
      ⟨isJump, -⟩ | ⟨isJump, -⟩ | ⟨-, -, accepted, -⟩ | ⟨-, -, -, other, -⟩
    · exact isJump
    · exact isJump
    · rw [accepted] at rejected
      cases rejected
    · exact absurd rejected other
  refine ⟨before, jump, between, rfl, isJump, ?_⟩
  intro earlier sequence later split
  cases earlier with
  | nil =>
    obtain ⟨rfl, -⟩ := List.cons.inj split
    rw [List.append_nil, rejected]
    simp [BeginsEpoch]
  | cons first earlier =>
    obtain ⟨rfl, rest⟩ := List.cons.inj split
    simpa using same earlier sequence later rest

/-- A restart is confirmed exactly when it does not match the marker its epoch
began with. -/
theorem restartConfirmed_iff (earlier : List UInt16) (sequence : UInt16) :
    RestartConfirmed earlier sequence ↔ ¬MatchesEpochMarker earlier sequence := by
  constructor
  · rintro confirmed ⟨jump, marker, noneBefore⟩
    have explained := (markerExplained_trackerAfter earlier jump.1).resolve_right
        fun other => noneBefore other.1
    have restarts : disposition earlier sequence = .sourceRestarted := by
      rw [disposition_eq]
      rcases (trackerAfter earlier).observe_cases sequence with
        ⟨-, -, restarted⟩ | ⟨-, unmatched, -⟩ | ⟨noJump, -⟩ | ⟨noJump, -⟩
      · rw [restarted]
      · exact absurd (marker.trans explained.2.symm) unmatched
      · exact absurd jump noJump
      · exact absurd jump noJump
    obtain ⟨before, between, rfl, rejected, same⟩ := confirmed restarts
    exact noneBefore (jumpInEpoch_of_rejected rejected same)
  · intro unmarked restarts
    rw [disposition_eq] at restarts
    rcases (trackerAfter earlier).observe_cases sequence with
      ⟨jump, matched, -⟩ | ⟨-, -, rejected⟩ | ⟨-, -, accepted, -⟩ | ⟨-, -, notRestarted, -⟩
    · rcases markerExplained_trackerAfter earlier jump.1 with
        ⟨noneBefore, marker⟩ | ⟨-, before, earlierJump, between, split, rejected, same, marker⟩
      · exact absurd ⟨jump, matched.trans marker, noneBefore⟩ unmarked
      · have predecessor : sequence - 1 = earlierJump := by
          rw [matched, marker]
          simp
        rw [predecessor]
        exact ⟨before, between, split, rejected, same⟩
    · rw [rejected] at restarts
      cases restarts
    · rw [accepted] at restarts
      cases restarts
    · exact absurd restarts notRestarted

/-- In every run of observations, all restarts are confirmed by a jump
rejected in the same epoch exactly when no observation jumps to the packet
after its epoch's base before any other jump of that epoch. -/
theorem restarts_confirmed_iff (observed : List UInt16) :
    AllSteps RestartConfirmed observed ↔ AllSteps
        (fun earlier sequence => ¬MatchesEpochMarker earlier sequence)
        observed :=
  allSteps_congr restartConfirmed_iff observed

/-- After `0, 1` and an ordinary advance to `3000`, the single late packet `2`
restarts the epoch although no packet was ever rejected. -/
theorem late_packet_restarts_unconfirmed :
    ¬AllSteps RestartConfirmed [0, 1, 3000, 2] := by
  intro confirmed
  obtain ⟨before, between, split, rejected, -⟩ := confirmed [0, 1, 3000] 2 [] rfl (by decide)
  have atFirst : before = [0] := by
    rcases before with - | ⟨first, - | ⟨second, - | ⟨third, rest⟩⟩⟩
    · exact absurd (List.cons.inj split).1 (by decide)
    · obtain ⟨rfl, -⟩ := List.cons.inj split
      rfl
    · simp at split
    · simp at split
  subst atFirst
  revert rejected
  decide

end Rtp
end LiveAISIP
