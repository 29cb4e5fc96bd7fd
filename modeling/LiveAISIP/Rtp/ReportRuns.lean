import LiveAISIP.Rtp.Reporting

/-!
# Runs with reports

A session receives media and sends reports.  The reports of one epoch split the
packets counted in it into intervals, as long as no failed poll closes an interval
that it does not report.
-/

namespace LiveAISIP
namespace Rtp

open Fault
open Transaction (Duration)
open RtcpScheduler Run

variable {tracker : SequenceTracker}

namespace RtpSession

/-- A call of a session that also sends reports. -/
inductive ReportCall
  | media (call : Call)
  | noteRtpSent (payloadOctets : Nat)
  | pollRtcp (grants : Nat → Bool) (now : Duration) (ntpTimestamp : UInt64)
      (rtpTimestamp : UInt32)

/-- What such a call returns. -/
inductive ReportReply
  | media (reply : Reply)
  | noted
  | polled (outcome : Except (Fault RtpSessionError) (Option ScheduledReport))

/-- One call. -/
def reportStep (session : RtpSession) : ReportCall → RtpSession × ReportReply
  | .media call => ((step session call).1, .media (step session call).2)
  | .noteRtpSent payloadOctets => (session.noteRtpSent payloadOctets, .noted)
  | .pollRtcp grants now ntpTimestamp rtpTimestamp =>
    ((pollRtcp grants now ntpTimestamp rtpTimestamp session).1,
      .polled (pollRtcp grants now ntpTimestamp rtpTimestamp session).2)

/-- The report blocks that a call returns. -/
def ReportReply.blocks : ReportReply → List ReceptionReport
  | .polled (.ok (some report)) => report.blocks
  | _ => []

/-- The name of a schedule fits its description. -/
def Named (session : RtpSession) : Prop :=
  ∀ scheduler ∈ session.rtcp, scheduler.cname.length ≤ maxRtcpCnameBytes

theorem short_of_new
    {grants : Nat → Bool} {interval : Duration} {localSsrc : UInt32} {cname : List UInt8}
    {now : Duration} {scheduler : RtcpScheduler}
    (created : RtcpScheduler.new grants interval localSsrc cname now = .ok scheduler) :
    scheduler.cname.length ≤ maxRtcpCnameBytes := by
  rw [RtcpScheduler.new] at created
  split at created
  · cases created
  next valid =>
    split at created
    · cases created
    · split at created
      · cases created
      · cases created
        rw [not_or, not_or] at valid
        exact Nat.not_lt.1 valid.2.1

theorem named_step {session : RtpSession} (named : session.Named) (call : Call) :
    (step session call).1.Named := by
  cases call with
  | configureTelephoneEvent config =>
    simp only [step, reply, configureTelephoneEvent]
    split
    · exact named
    · exact named
  | configureRtcp grants interval localSsrc cname policy now =>
    simp only [step, reply, configureRtcp]
    cases built : RtcpScheduler.new grants interval localSsrc cname now with
    | error error =>
      rw [Effect.bind_of_error (lift_of_error _ rfl _)]
      exact named
    | ok scheduler =>
      rw [Effect.bind_of_ok (lift_of_ok _ rfl _)]
      intro found same
      cases same
      exact short_of_new built
  | ingestRtp grants networkSource datagram arrival protection =>
    have beside := beside_ingestRtp session grants networkSource datagram arrival protection
    intro scheduler found
    exact named scheduler (beside.rtcp ▸ found)
  | ingestRtcp grants networkSource datagram arrival protection =>
    have beside := beside_ingestRtcp session grants networkSource datagram arrival protection
    intro scheduler found
    exact named scheduler (beside.rtcp ▸ found)
  | popPlayoutPacket =>
    intro scheduler found
    exact named scheduler ((beside_popPlayoutPacket session).rtcp ▸ found)

/-- No poll loses an interval. -/
def Settles (session : RtpSession) (grants : Nat → Bool) (now : Duration) : Prop :=
  ∀ scheduler ∈ session.rtcp, scheduler.Settles (some session.receive) grants now

instance (session : RtpSession) (grants : Nat → Bool) (now : Duration) :
    Decidable (session.Settles grants now) :=
  inferInstanceAs (Decidable (∀ scheduler ∈ _, _))

/-- What a poll of a session does with its source. -/
inductive SessionPoll (session : RtpSession) (grants : Nat → Bool) (now : Duration) :
    RtpReceiveState → List ReceptionReport → Prop
  | quiet : SessionPoll session grants now session.receive []
  | reported {block : ReceptionReport}
      (ready : session.receive.Ready) (countable : session.receive.sequence.Countable)
      (describes : session.receive.Describes now block) :
      SessionPoll session grants now session.receive.closed [block]
  | lost (ready : session.receive.Ready) (countable : session.receive.sequence.Countable)
      (unfit : session.Settles grants now →
        session.receive.sequence.reported = session.receive.sequence.totals) :
      SessionPoll session grants now session.receive.closed []

theorem sessionPoll
    {session : RtpSession} (named : session.Named) (grants : Nat → Bool) (now : Duration)
    (ntpTimestamp : UInt64) (rtpTimestamp : UInt32) :
    (pollRtcp grants now ntpTimestamp rtpTimestamp session).1 =
        { session with
          rtcp := (pollRtcp grants now ntpTimestamp rtpTimestamp session).1.rtcp
          receive := (pollRtcp grants now ntpTimestamp rtpTimestamp session).1.receive } ∧
      (pollRtcp grants now ntpTimestamp rtpTimestamp session).1.Named ∧
      SessionPoll session grants now
        (pollRtcp grants now ntpTimestamp rtpTimestamp session).1.receive
        (ReportReply.polled (pollRtcp grants now ntpTimestamp rtpTimestamp session).2).blocks := by
  rw [pollRtcp]
  cases scheduled : session.rtcp with
  | none =>
    refine ⟨?_, named, .quiet⟩
    cases session
    cases scheduled
    rfl
  | some scheduler =>
    have short := named scheduler scheduled
    dsimp only
    by_cases due : scheduler.Due now
    · have outcome := poll_outcome short due grants ntpTimestamp rtpTimestamp (some session.receive)
      generalize poll grants now ntpTimestamp rtpTimestamp
        (scheduler, some session.receive) = polled at outcome ⊢
      cases outcome with
      | bare unready blocks =>
        refine ⟨rfl, ?_, ?_⟩
        · rintro _ ⟨⟩
          exact short
        · simp only [ReportReply.blocks, Except.mapError, blocks]
          exact .quiet
      | refused unready | overflowed source uncountable =>
        refine ⟨rfl, ?_, .quiet⟩
        rintro _ ⟨⟩
        exact short
      | reported source ready countable inTime granted blocks describes =>
        cases source
        refine ⟨rfl, ?_, ?_⟩
        · rintro _ ⟨⟩
          exact short
        · simp only [ReportReply.blocks, Except.mapError, blocks]
          exact .reported ready countable describes
      | lost source ready countable unfit =>
        cases source
        refine ⟨rfl, ?_, .lost ready countable ?_⟩
        · rintro _ ⟨⟩
          exact short
        · intro settles
          by_contra opened
          exact unfit (settles scheduler scheduled due _ rfl ⟨ready, countable, opened⟩)
    · obtain ⟨same, nothing⟩ := poll_of_early due grants ntpTimestamp
        rtpTimestamp (some session.receive)
      generalize poll grants now ntpTimestamp rtpTimestamp
        (scheduler, some session.receive) = polled at same nothing ⊢
      obtain ⟨after, outcome⟩ := polled
      obtain rfl : after = (scheduler, some session.receive) := same
      refine ⟨rfl, ?_, ?_⟩
      · rintro _ ⟨⟩
        exact short
      · cases outcome with
        | error error => exact .quiet
        | ok polled =>
          cases polled with
          | none => exact .quiet
          | some report => exact absurd rfl (nothing report)

end RtpSession

namespace SequenceTracker

variable {tracker : SequenceTracker}

/-- The totals of the current epoch, with an extended number that stays at the largest
one. -/
def cappedTotals (tracker : SequenceTracker) : Totals where
  expected := saturatingAdd
    (min (tracker.cycles + tracker.maxSequence.toNat) (2 ^ 64 - 1) - tracker.baseSequence.toNat) 1
  received := tracker.received

theorem totals_of_countable (countable : tracker.Countable) :
    tracker.totals = tracker.cappedTotals := by
  rw [totals, cappedTotals, Nat.min_eq_left]
  exact Nat.le_pred_of_lt countable

/-- The epoch goes on with at least the same totals. -/
structure Grows (before after : SequenceTracker) : Prop where
  validated : after.validated = before.validated
  reported : after.reported = before.reported
  expected : before.validated = true → before.cappedTotals.expected ≤ after.cappedTotals.expected
  received : before.received ≤ 2 ^ 64 - 1 →
    before.received ≤ after.received ∧ after.received ≤ 2 ^ 64 - 1

theorem grows_refl (tracker : SequenceTracker) : tracker.Grows tracker :=
  ⟨rfl, rfl, fun _ => Nat.le_refl _, fun bounded => ⟨Nat.le_refl _, bounded⟩⟩

theorem received_count (bounded : tracker.received ≤ 2 ^ 64 - 1) :
    tracker.received ≤ tracker.count.received ∧ tracker.count.received ≤ 2 ^ 64 - 1 := by
  rw [count, saturatingAdd]
  exact ⟨Nat.le_min.2 ⟨Nat.le_succ _, bounded⟩, Nat.min_le_right _ _⟩

/-- A later number of the same epoch adds to the totals. -/
theorem expected_mono
    {before after : SequenceTracker} (base : after.baseSequence = before.baseSequence)
    (later : min (before.cycles + before.maxSequence.toNat) (2 ^ 64 - 1) ≤
      min (after.cycles + after.maxSequence.toNat) (2 ^ 64 - 1)) :
    before.cappedTotals.expected ≤ after.cappedTotals.expected := by
  simp only [cappedTotals, saturatingAdd, base]
  exact min_le_min_right _ (Nat.succ_le_succ (Nat.sub_le_sub_right later _))

/-- A wrap of the sequence numbers adds to the extended number. -/
theorem extended_wrapped (tracker : SequenceTracker) (sequence : UInt16) :
    min (tracker.cycles + tracker.maxSequence.toNat) (2 ^ 64 - 1) ≤
      min (saturatingAdd tracker.cycles rtpSequenceModulus + sequence.toNat) (2 ^ 64 - 1) := by
  have small := tracker.maxSequence.toNat_lt
  rw [saturatingAdd, rtpSequenceModulus]
  apply Nat.le_min.2
  refine ⟨?_, Nat.min_le_right _ _⟩
  rcases Nat.le_total (tracker.cycles + 2 ^ 16) (2 ^ 64 - 1) with fits | full
  · rw [Nat.min_eq_left fits]
    refine Nat.le_trans (Nat.min_le_left _ _) ?_
    omega
  · rw [Nat.min_eq_right full]
    exact Nat.le_trans (Nat.min_le_right _ _) (Nat.le_add_right _ _)

/-- A source on probation is validated, or waits with what was counted before. -/
theorem observeProbation_cases (tracker : SequenceTracker) (sequence : UInt16) :
    ((tracker.observeProbation sequence).2 = .sourceValidated ∧
        (tracker.observeProbation sequence).1.reported = ⟨0, 0⟩ ∧
        (tracker.observeProbation sequence).1.received = 1) ∨
      ((tracker.observeProbation sequence).2 = .probation ∧
        (tracker.observeProbation sequence).1.validated = tracker.validated ∧
        (tracker.observeProbation sequence).1.reported = tracker.reported ∧
        (tracker.observeProbation sequence).1.received = tracker.received) := by
  rw [observeProbation]
  split
  · exact .inr ⟨rfl, rfl, rfl, rfl⟩
  · split
    · dsimp only
      split
      · exact .inl ⟨rfl, rfl, rfl⟩
      · exact .inr ⟨rfl, rfl, rfl, rfl⟩
    · exact .inr ⟨rfl, rfl, rfl, rfl⟩

/-- An observation that begins no epoch adds to the totals. -/
theorem observe_grows {sequence : UInt16}
    (quiet : ¬BeginsEpoch (tracker.observe sequence).2) :
    tracker.Grows (tracker.observe sequence).1 := by
  cases validated : tracker.validated with
  | false =>
    rw [observe_unvalidated validated] at quiet ⊢
    rcases tracker.observeProbation_cases sequence with
      ⟨begun, -⟩ | ⟨-, unvalidated, reported, received⟩
    · exact absurd (.inl begun) quiet
    · refine ⟨unvalidated, reported, ?_, fun bounded => ⟨received.ge, received.le.trans bounded⟩⟩
      intro known
      rw [validated] at known
      cases known
  | true =>
    rw [observe, if_neg (by simp [validated])] at quiet ⊢
    dsimp only at quiet ⊢
    split at quiet
    next still =>
      rw [if_pos still]
      exact ⟨rfl, rfl, fun _ => Nat.le_refl _, received_count⟩
    next moved =>
      rw [if_neg moved]
      split at quiet
      next near =>
        rw [if_pos near]
        split at quiet
        next wrapped =>
          rw [if_pos wrapped]
          exact ⟨rfl, rfl, fun _ => expected_mono rfl (extended_wrapped tracker sequence),
            received_count⟩
        next forward =>
          rw [if_neg forward]
          have order : tracker.maxSequence.toNat ≤ sequence.toNat :=
            UInt16.le_iff_toNat_le.1 (UInt16.not_lt.1 forward)
          exact ⟨rfl, rfl, fun _ => expected_mono rfl
            (min_le_min_right _ (Nat.add_le_add_left order _)), received_count⟩
      next far =>
        rw [if_neg far]
        split at quiet
        next jump =>
          rw [if_pos jump]
          split at quiet
          next confirmed => exact absurd (.inr rfl) quiet
          next unconfirmed =>
            rw [if_neg unconfirmed]
            exact ⟨rfl, rfl, fun _ => Nat.le_refl _, fun bounded => ⟨Nat.le_refl _, bounded⟩⟩
        next late =>
          rw [if_neg late]
          exact ⟨rfl, rfl, fun _ => Nat.le_refl _, received_count⟩

/-- An epoch begins without a report. -/
theorem observe_begins {sequence : UInt16}
    (begins : BeginsEpoch (tracker.observe sequence).2) :
    (tracker.observe sequence).1.reported = ⟨0, 0⟩ ∧ (tracker.observe sequence).1.received = 1 := by
  cases validated : tracker.validated with
  | false =>
    rw [observe_unvalidated validated] at begins ⊢
    rcases tracker.observeProbation_cases sequence with ⟨-, begun⟩ | ⟨waiting, -⟩
    · exact begun
    · rw [waiting] at begins
      cases begins with
      | inl validated => cases validated
      | inr restarted => cases restarted
  | true =>
    rcases tracker.observe_cases sequence with
      ⟨-, -, restarted⟩ | ⟨-, -, rejected⟩ | ⟨-, unvalidated, -⟩ | ⟨-, other, another, -⟩
    · rw [restarted]
      exact ⟨rfl, rfl⟩
    · rw [rejected] at begins
      cases begins with
      | inl validated => cases validated
      | inr restarted => cases restarted
    · rw [validated] at unvalidated
      cases unvalidated
    · cases begins with
      | inl begun => exact absurd begun other
      | inr begun => exact absurd begun another

end SequenceTracker

/-- The sum of some counts. -/
def Totals.sum (intervals : List Totals) : Totals where
  expected := (intervals.map Totals.expected).sum
  received := (intervals.map Totals.received).sum

/-- A report block that was sent: the totals at that time and its lost share. -/
structure Entry where
  totals : Totals
  fractionLost : UInt8

variable {entries : List Entry}

/-- The totals at the last of the reports, which stands first. -/
def latest : List Entry → Totals
  | [] => ⟨0, 0⟩
  | entry :: _ => entry.totals

/-- The intervals between the reports. -/
def intervals : List Entry → List Totals
  | [] => []
  | entry :: earlier => entry.totals.since (latest earlier) :: intervals earlier

/-- Each report covers the packets since the one before it, and together with the
interval that is open they cover the epoch. -/
structure AccountedOnce (tracker : SequenceTracker) (entries : List Entry) : Prop where
  reported : tracker.reported = latest entries
  fractions : entries.map Entry.fractionLost = (intervals entries).map Totals.fraction
  settled : Totals.sum (intervals entries) = latest entries
  current : tracker.validated = true → tracker.Countable →
    Totals.sum (tracker.totals.since tracker.reported :: intervals entries) = tracker.totals

/-- The reports of an epoch account for its packets, and lie behind the totals. -/
structure Accounts (tracker : SequenceTracker) (entries : List Entry) : Prop where
  reported : tracker.reported = latest entries
  fractions : entries.map Entry.fractionLost = (intervals entries).map Totals.fraction
  settled : Totals.sum (intervals entries) = latest entries
  expected : (latest entries).expected ≤ tracker.cappedTotals.expected
  received : (latest entries).received ≤ tracker.received
  bounded : tracker.received ≤ 2 ^ 64 - 1
  unvalidated : tracker.validated = false → entries = []

theorem accounts_nil (reported : tracker.reported = ⟨0, 0⟩)
    (bounded : tracker.received ≤ 2 ^ 64 - 1) : Accounts tracker [] where
  reported := reported
  fractions := rfl
  settled := rfl
  expected := Nat.zero_le _
  received := Nat.zero_le _
  bounded := bounded
  unvalidated := fun _ => rfl

theorem Accounts.grows
    {before after : SequenceTracker}
    (accounts : Accounts before entries) (grows : before.Grows after) :
    Accounts after entries where
  reported := grows.reported.trans accounts.reported
  fractions := accounts.fractions
  settled := accounts.settled
  expected := by
    cases validated : before.validated with
    | false =>
      rw [accounts.unvalidated validated]
      exact Nat.zero_le _
    | true => exact accounts.expected.trans (grows.expected validated)
  received := accounts.received.trans (grows.received accounts.bounded).1
  bounded := (grows.received accounts.bounded).2
  unvalidated := fun unvalidated => accounts.unvalidated (grows.validated ▸ unvalidated)

/-- Counts since earlier totals complete these. -/
theorem Totals.sum_since
    {later earlier : Totals} {settled : List Totals}
    (sum : Totals.sum settled = earlier) (expected : earlier.expected ≤ later.expected)
    (received : earlier.received ≤ later.received) :
    Totals.sum (later.since earlier :: settled) = later := by
  have expectedSum : (settled.map Totals.expected).sum = earlier.expected :=
    congrArg Totals.expected sum
  have receivedSum : (settled.map Totals.received).sum = earlier.received :=
    congrArg Totals.received sum
  ext
  · simp only [Totals.sum, since, List.map_cons, List.sum_cons, expectedSum]
    omega
  · simp only [Totals.sum, since, List.map_cons, List.sum_cons, receivedSum]
    omega

/-- A report closes the interval that is open. -/
theorem Accounts.closed
    (accounts : Accounts tracker entries) (validated : tracker.validated = true)
    (countable : tracker.Countable) :
    Accounts tracker.closed
      (⟨tracker.totals, (tracker.totals.since tracker.reported).fraction⟩ :: entries) := by
  have capped := SequenceTracker.totals_of_countable countable
  refine ⟨rfl, ?_, ?_, ?_, Nat.le_refl _, accounts.bounded, ?_⟩
  · rw [List.map_cons, accounts.fractions, accounts.reported]
    rfl
  · refine Totals.sum_since accounts.settled ?_ accounts.received
    rw [capped]
    exact accounts.expected
  · exact (congrArg Totals.expected capped).le
  · intro unvalidated
    exact absurd (validated.symm.trans unvalidated) (by decide)

theorem Accounts.accountedOnce (accounts : Accounts tracker entries) :
    AccountedOnce tracker entries where
  reported := accounts.reported
  fractions := accounts.fractions
  settled := accounts.settled
  current := by
    intro _ countable
    rw [accounts.reported]
    refine Totals.sum_since accounts.settled ?_ accounts.received
    rw [SequenceTracker.totals_of_countable countable]
    exact accounts.expected

namespace RtpSession

instance (answer : SequenceDisposition) : Decidable (BeginsEpoch answer) :=
  inferInstanceAs (Decidable (_ ∨ _))

/-- The call begins an epoch: a source was bound, validated or began anew. -/
def beginsEpoch (session : RtpSession) : ReportCall → Bool
  | .media (.ingestRtp grants _ datagram arrival protection) =>
    match session.arrivalOf grants datagram protection with
    | .unseen => false
    | .switched _ => true
    | .reached fresh packet =>
      fresh || (session.checkStream (session.checking fresh packet).receive packet
        arrival).2.any fun disposition => decide (BeginsEpoch disposition)
  | _ => false

/-- The blocks that a call sends, with the totals at that time. -/
def entriesOf (session : RtpSession) (call : ReportCall) : List Entry :=
  (reportStep session call).2.blocks.map fun block =>
    ⟨session.receive.sequence.totals, block.fractionLost⟩

/-- One call, with the blocks of the current epoch. -/
def book (account : RtpSession × List Entry) (call : ReportCall) :
    (RtpSession × List Entry) × ReportReply :=
  (((reportStep account.1 call).1,
    if account.1.beginsEpoch call then [] else account.1.entriesOf call ++ account.2),
    (reportStep account.1 call).2)

/-- The blocks that a run sent in its current epoch, the last one first. -/
def ledger (start : RtpSession) (calls : List ReportCall) : List Entry :=
  (after book (start, []) calls).2

theorem after_book (account : RtpSession × List Entry) (calls : List ReportCall) :
    (after book account calls).1 = after reportStep account.1 calls := by
  induction calls generalizing account with
  | nil => rfl
  | cons call calls ih =>
    rw [after_cons, after_cons, ih]
    rfl

theorem sequence_noteReports
    (arrival : Duration) (receive : RtpReceiveState) (packets : List RtcpPacket) :
    (noteReports arrival receive packets).sequence = receive.sequence := by
  rw [noteReports]
  induction packets.filterMap senderReportOf generalizing receive with
  | nil => rfl
  | cons report reports ih =>
    rw [List.foldl_cons, ih]
    rfl

/-- A checked packet begins an epoch, or the epoch goes on. -/
theorem grows_or_begins
    {state after : RtpReceiveState} {packet : RtpPacket}
    {checked : Option SequenceDisposition} (check : state.Checked after packet checked) :
    if checked.any (fun disposition => decide (BeginsEpoch disposition)) then
      after.sequence.reported = ⟨0, 0⟩ ∧ after.sequence.received ≤ 2 ^ 64 - 1
    else state.sequence.Grows after.sequence := by
  cases checked with
  | none =>
    have same : after.sequence = state.sequence := check.sequence
    rw [same]
    exact SequenceTracker.grows_refl _
  | some disposition =>
    have observed : after.sequence =
        (state.sequence.observe packet.header.sequenceNumber).1 := check.sequence
    have answered := check.disposition disposition rfl
    rw [observed, Option.any_some]
    by_cases begins : BeginsEpoch disposition
    · rw [if_pos (decide_eq_true begins)]
      obtain ⟨reported, received⟩ := SequenceTracker.observe_begins (answered ▸ begins)
      exact ⟨reported, received.le.trans (by decide)⟩
    · rw [if_neg (by simpa using begins)]
      exact SequenceTracker.observe_grows (answered ▸ begins)

/-- A media call begins an epoch, or the epoch goes on. -/
theorem sequence_media (session : RtpSession) (call : Call) :
    (session.beginsEpoch (.media call) = true ∧
        (step session call).1.receive.sequence.reported = ⟨0, 0⟩ ∧
        (step session call).1.receive.sequence.received ≤ 2 ^ 64 - 1) ∨
      (session.beginsEpoch (.media call) = false ∧
        session.receive.sequence.Grows (step session call).1.receive.sequence) := by
  have stream : (step session call).1.receive = (session.streamStep call).receive :=
    congrArg Stream.receive (stream_step session call).1
  rw [stream]
  cases call with
  | ingestRtp grants networkSource datagram arrival protection =>
    simp only [beginsEpoch, streamStep]
    cases session.arrivalOf grants datagram protection with
    | unseen => exact .inr ⟨rfl, SequenceTracker.grows_refl _⟩
    | switched packet => exact .inl ⟨rfl, rfl, Nat.zero_le _⟩
    | reached fresh packet =>
      have check := session.checked_checkStream (session.checking fresh packet).receive
        packet arrival
      have after : (session.streamAfter arrival (.reached fresh packet)).receive =
          (session.checkStream (session.checking fresh packet).receive packet arrival).1 := rfl
      have grown := grows_or_begins check
      rw [after]
      dsimp only
      cases begins : (session.checkStream (session.checking fresh packet).receive packet
          arrival).2.any fun disposition => decide (BeginsEpoch disposition) with
      | true =>
        rw [begins] at grown
        exact .inl ⟨Bool.or_true _, grown⟩
      | false =>
        rw [begins] at grown
        cases fresh with
        | true =>
          have bounded : SequenceTracker.new.received ≤ 2 ^ 64 - 1 := Nat.zero_le _
          exact .inl ⟨rfl, grown.reported, (grown.received bounded).2⟩
        | false => exact .inr ⟨rfl, grown⟩
  | ingestRtcp grants networkSource datagram arrival protection =>
    right
    refine ⟨rfl, ?_⟩
    simp only [streamStep]
    rw [sequence_noteReports]
    exact SequenceTracker.grows_refl _
  | _ => exact .inr ⟨rfl, SequenceTracker.grows_refl _⟩

/-- A poll loses no interval. -/
def PollSettles (session : RtpSession) : ReportCall → Prop
  | .pollRtcp grants now _ _ => session.Settles grants now
  | _ => True

instance (session : RtpSession) (call : ReportCall) : Decidable (session.PollSettles call) := by
  cases call with
  | pollRtcp grants now ntpTimestamp rtpTimestamp =>
    exact inferInstanceAs (Decidable (session.Settles grants now))
  | _ => exact inferInstanceAs (Decidable True)

theorem named_reportStep
    {session : RtpSession} (named : session.Named) (call : ReportCall) :
    (reportStep session call).1.Named := by
  cases call with
  | media call => exact named_step named call
  | noteRtpSent payloadOctets =>
    intro scheduler found
    obtain ⟨earlier, scheduled, rfl⟩ := Option.mem_map.1 found
    exact named earlier scheduled
  | pollRtcp grants now ntpTimestamp rtpTimestamp =>
    exact (sessionPoll named grants now ntpTimestamp rtpTimestamp).2.1

/-- A call that loses no interval keeps the account of the epoch. -/
theorem accounts_book
    {account : RtpSession × List Entry} (call : ReportCall) (named : account.1.Named)
    (accounts : Accounts account.1.receive.sequence account.2)
    (settles : account.1.PollSettles call) :
    Accounts (book account call).1.1.receive.sequence (book account call).1.2 := by
  obtain ⟨session, entries⟩ := account
  simp only [book]
  cases call with
  | media call =>
    rcases sequence_media session call with ⟨begins, reported, bounded⟩ | ⟨quiet, grows⟩
    · rw [if_pos begins]
      exact accounts_nil reported bounded
    · rw [if_neg (by simp [quiet])]
      exact accounts.grows grows
  | noteRtpSent payloadOctets => exact accounts
  | pollRtcp grants now ntpTimestamp rtpTimestamp =>
    rw [if_neg (by simp [beginsEpoch])]
    have polled := (sessionPoll named grants now ntpTimestamp rtpTimestamp).2.2
    have after : (reportStep session (.pollRtcp grants now ntpTimestamp rtpTimestamp)).1.receive =
        (pollRtcp grants now ntpTimestamp rtpTimestamp session).1.receive := rfl
    have sent : (reportStep session (.pollRtcp grants now ntpTimestamp rtpTimestamp)).2.blocks =
        (ReportReply.polled (pollRtcp grants now ntpTimestamp rtpTimestamp session).2).blocks := rfl
    rw [entriesOf, after, sent]
    generalize (pollRtcp grants now ntpTimestamp rtpTimestamp session).1.receive = receive,
      (ReportReply.polled
        (pollRtcp grants now ntpTimestamp rtpTimestamp session).2).blocks = blocks at polled
    cases polled with
    | quiet => exact accounts
    | reported ready countable describes =>
      rw [List.map_cons, List.map_nil, describes.fraction]
      exact accounts.closed ready.2 countable
    | lost ready countable unfit =>
      rw [(RtpReceiveState.closed_eq_iff _).2 (unfit settles)]
      exact accounts

section

variable {grants : Nat → Bool} {receiveConfig : RtpReceiveConfig}
  {sourcePolicy : SourcePolicy} {endpoints : SymmetricEndpoints}
  {security : MediaSecurityPolicy} {liveness : MediaLiveness}
  {capacity maximum : Nat} {start : RtpSession}
  (created : newWithPayloadLimit grants receiveConfig sourcePolicy endpoints security
    liveness capacity maximum = .ok start)

include created

theorem named_run (calls : List ReportCall) : (after reportStep start calls).Named := by
  have initial : start.Named := by
    intro scheduler found
    rw [(stream_new created).2.2] at found
    cases found
  exact invariant Named initial (fun session call named => named_reportStep named call) calls

/-- In a run whose polls lose no interval the reports account for each epoch. -/
theorem accounts_run
    (calls : List ReportCall)
    (settled : AllSteps
      (fun earlier call => PollSettles (after reportStep start earlier) call) calls) :
    Accounts (after reportStep start calls).receive.sequence (ledger start calls) := by
  have initial : Accounts start.receive.sequence (ledger start []) := by
    have receive : start.receive = .new receiveConfig :=
      congrArg Stream.receive (stream_new created).1
    rw [receive]
    exact accounts_nil rfl (Nat.zero_le _)
  refine guarded_invariant
    (fun earlier (session : RtpSession) =>
      Accounts session.receive.sequence (ledger start earlier)) initial ?_ calls settled
  intro earlier call last accounts
  have same : (after book (start, []) earlier).1 = after reportStep start earlier :=
    after_book (start, []) earlier
  rw [ledger, ← same] at accounts
  have next := accounts_book call (same ▸ named_run created earlier) accounts (same ▸ last)
  rw [ledger, after_append, ← same]
  exact next

/-- In every reachable session a failed report or poll changes nothing exactly when it
finds no open interval that it cannot report, and in a run whose polls all report their
open intervals the lost shares cover each epoch once. -/
theorem reports_account_iff (calls : List ReportCall) : (∀ now, (∀ error,
          ((after reportStep start calls).receive.receptionReport now).2 = .error (.refused error) →
          ((after reportStep start calls).receive.receptionReport now).1 =
            (after reportStep start calls).receive) ↔
        ((after reportStep start calls).receive.OpenInterval →
          (after reportStep start calls).receive.InTime now)) ∧
      (∀ scheduler ∈ (after reportStep start calls).rtcp,
        ∀ grants now ntpTimestamp rtpTimestamp receive,
          (∀ error, (poll grants now ntpTimestamp rtpTimestamp
                (scheduler, receive)).2 = .error (.refused error) →
              (poll grants now ntpTimestamp rtpTimestamp
                (scheduler, receive)).1 = (scheduler, receive)) ↔
            scheduler.Settles receive grants now) ∧
      (AllSteps
          (fun earlier call => PollSettles (after reportStep start earlier) call) calls →
        AccountedOnce (after reportStep start calls).receive.sequence (ledger start calls)) := by
  refine ⟨fun now => RtpReceiveState.receptionReport_atomic_iff _ now, ?_, ?_⟩
  · intro scheduler scheduled grants now ntpTimestamp rtpTimestamp receive
    exact poll_atomic_iff (named_run created calls scheduler scheduled) grants
      now ntpTimestamp rtpTimestamp receive
  · intro settled
    exact (accounts_run created calls settled).accountedOnce

end

/-- A report of the known source at two seconds, with its name. -/
def sampleReport : Call := .ingestRtcp (fun _ => true) sampleEndpoint
    [0x80, 200, 0, 6, 0, 0, 0, 7, 0, 0, 0, 1, 0, 0, 0, 0, 0, 0, 0, 0, 0, 0, 0, 0, 0, 0, 0, 0,
      0x81, 202, 0, 2, 0, 0, 0, 7, 1, 1, 97, 0]
    (.fromSecs 2) .plain

/-- Two packets and a report of the source in a session that reports each second. -/
def sampleReported : List ReportCall :=
  [.media (.configureRtcp (fun _ => true) (.fromSecs 1) 9 [97] .strict (.fromSecs 0)),
    .media (sampleDatagram 10 1), .media (sampleDatagram 11 2), .media sampleReport]

/-- A poll after so many seconds. -/
def samplePoll (seconds : UInt32) : ReportCall := .pollRtcp (fun _ => true) (.fromSecs seconds) 0 0

theorem reports_account_iff_polled :
    ∃ start, sampleSession = .ok start ∧ AccountedOnce
        (after reportStep start (sampleReported ++ [samplePoll 3])).receive.sequence
        (ledger start (sampleReported ++ [samplePoll 3])) ∧
      (ledger start (sampleReported ++ [samplePoll 3])).map Entry.totals = [⟨1, 1⟩] := by
  have accounting := fun start (created : sampleSession = .ok start) calls =>
    reports_account_iff created calls
  refine ⟨_, rfl, (accounting _ rfl _).2.2 ?_, by decide +kernel⟩
  rw [allSteps_concat, show sampleReported = [] ++
      [.media (.configureRtcp (fun _ => true) (.fromSecs 1) 9 [97] .strict (.fromSecs 0))] ++
      [.media (sampleDatagram 10 1)] ++ [.media (sampleDatagram 11 2)] ++
      [.media sampleReport] from rfl,
    allSteps_concat, allSteps_concat, allSteps_concat, allSteps_concat]
  exact ⟨⟨⟨⟨⟨allSteps_nil _, trivial⟩, trivial⟩, trivial⟩, trivial⟩, by decide +kernel⟩

/-- A poll that is earlier than the last report of the source fails and closes the
interval that is open. -/
theorem early_poll_loses_interval :
    ∃ start, sampleSession = .ok start ∧
      ∃ scheduler ∈ (after reportStep start sampleReported).rtcp,
        (poll (fun _ => true) (.fromSecs 1) 0 0
            (scheduler, some (after reportStep start sampleReported).receive)).2 =
          .error (.refused (.receiveState .timeMovedBackwards)) ∧
        (poll (fun _ => true) (.fromSecs 1) 0 0
            (scheduler, some (after reportStep start sampleReported).receive)).1 ≠
          (scheduler, some (after reportStep start sampleReported).receive) := by
  refine ⟨_, rfl, ?_⟩
  decide +kernel

end RtpSession

end Rtp
end LiveAISIP
