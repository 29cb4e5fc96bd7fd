import LiveAISIP.Library.KeyMap
import LiveAISIP.Runtime.Admission
import LiveAISIP.Transaction.Timer

/-!
# Retry suppression

The bounded table of cooldowns of `runtime/admission/mod.rs`.  A 503 response suppresses
its target for a while.  An entry leaves the table only when its own target is asked about
after the cooldown, so a table can be full of cooldowns that are over.

Where the source reserves memory, `granted` tells whether the reservation is granted.
-/

namespace LiveAISIP
namespace Runtime

open Transaction (Duration)
open Run List

/-- Maximum remote target cooldowns retained. -/
def maxRetrySuppressions : Nat := 65536

/-- Cooldowns by resolved target. -/
structure RetrySuppressor where
  deadlines : KeyMap UInt64 Duration
  maximum : Nat

namespace RetrySuppressor

/-- An empty table of a bounded capacity. -/
def new (maximum : Nat) (granted : Bool) : Except AdmissionError RetrySuppressor :=
  if maximum = 0 ∨ maxRetrySuppressions < maximum then .error .invalidSuppressionCapacity
  else if granted then .ok ⟨∅, maximum⟩
  else .error .allocationFailed

/-- A new target finds the table full. -/
def full (suppressor : RetrySuppressor) (target : UInt64) : Bool :=
  target ∉ suppressor.deadlines && suppressor.deadlines.size == suppressor.maximum

/-- Record the cooldown of a 503 response. -/
def note503
    (suppressor : RetrySuppressor) (target : UInt64) (now : Duration)
    (retry : RetryAfter) : RetrySuppressor × Except AdmissionError Unit :=
  if suppressor.full target then (suppressor, .error .suppressionCapacityExceeded)
  else
    match now.checkedAdd (.fromSecs retry.seconds) with
    | none => (suppressor, .error .timeOverflow)
    | some deadline =>
      ({ suppressor with deadlines := suppressor.deadlines.insert target deadline }, .ok ())

/-- Whether a target may be attempted; a cooldown that is over is forgotten. -/
def mayAttempt (suppressor : RetrySuppressor) (target : UInt64) (now : Duration) :
    RetrySuppressor × Bool :=
  match suppressor.deadlines.lookup target with
  | some deadline =>
    if now.asNanos < deadline.asNanos then (suppressor, false)
    else ({ suppressor with deadlines := suppressor.deadlines.erase target }, true)
  | none => (suppressor, true)

end RetrySuppressor

/-- A call on the table. -/
inductive SuppressorCall
  | note503 (target : UInt64) (now : Duration) (retry : RetryAfter)
  | mayAttempt (target : UInt64) (now : Duration)

/-- The time that a call is given. -/
def SuppressorCall.now : SuppressorCall → Nat
  | note503 _ now _ => now.asNanos
  | mayAttempt _ now => now.asNanos

/-- The result of a call. -/
inductive SuppressorOutcome
  | noted (result : Except AdmissionError Unit)
  | permission (allowed : Bool)

/-- Make one call. -/
def RetrySuppressor.step (suppressor : RetrySuppressor) :
    SuppressorCall → RetrySuppressor × SuppressorOutcome
  | .note503 target now retry =>
    ((suppressor.note503 target now retry).1, .noted (suppressor.note503 target now retry).2)
  | .mayAttempt target now =>
    ((suppressor.mayAttempt target now).1, .permission (suppressor.mayAttempt target now).2)

/-- The deadline of a target after one more call: that of the last cooldown that was
recorded for it. -/
def nextDeadline (target : UInt64) (known : Option Duration) :
    SuppressorCall × SuppressorOutcome → Option Duration
  | (.note503 other now retry, .noted (.ok _)) =>
    if other = target then now.checkedAdd (.fromSecs retry.seconds) else known
  | _ => known

/-- The deadline of the latest cooldown of a target in a history. -/
def latestDeadline
    (target : UInt64) (history : List (SuppressorCall × SuppressorOutcome)) :
    Option Duration :=
  history.foldl (nextDeadline target) none

/-- The latest cooldown of a target is not over. -/
def CoolingDown
    (history : List (SuppressorCall × SuppressorOutcome))
    (target : UInt64) (now : Duration) : Prop :=
  ∃ deadline, latestDeadline target history = some deadline ∧ now.asNanos < deadline.asNanos

/-- The calls come in the order of their times. -/
def InCallOrder (calls : List SuppressorCall) : Prop :=
  (calls.map SuppressorCall.now).Pairwise (· ≤ ·)

instance (calls : List SuppressorCall) : Decidable (InCallOrder calls) :=
  inferInstanceAs (Decidable (List.Pairwise _ _))

/-- What a call returns after a history: a target is refused exactly while its latest
cooldown lasts, and a cooldown only where as many others last as the table holds. -/
def Returns
    (maximum : Nat) (history : List (SuppressorCall × SuppressorOutcome)) :
    SuppressorCall → SuppressorOutcome → Prop
  | .mayAttempt target now, outcome =>
    outcome = .permission false ↔ CoolingDown history target now
  | .note503 target now _, outcome =>
    outcome = .noted (.error .suppressionCapacityExceeded) →
      ∃ others : List UInt64, others.Nodup ∧ others.length = maximum ∧
        ∀ other ∈ others, other ≠ target ∧ CoolingDown history other now

/-- A step of a run does what suppression is for: the table is bounded, and the call
returns what the history calls for. -/
def Suppresses
    (fresh : RetrySuppressor) (earlier : List SuppressorCall) (call : SuppressorCall) : Prop :=
  (after RetrySuppressor.step fresh (earlier ++ [call])).deadlines.size ≤ fresh.maximum ∧
    Returns fresh.maximum (Run.history RetrySuppressor.step fresh earlier) call
      (output RetrySuppressor.step fresh earlier call)

/-- No cooldown that is over keeps a new target out of the table. -/
def RetrySuppressor.Fresh (suppressor : RetrySuppressor) : SuppressorCall → Prop
  | .mayAttempt _ _ => True
  | .note503 target now _ =>
    suppressor.full target = true →
      ∀ other deadline, suppressor.deadlines.lookup other = some deadline →
        now.asNanos < deadline.asNanos

namespace RetrySuppressor

variable {suppressor : RetrySuppressor}

theorem full_iff {target : UInt64} : suppressor.full target = true ↔
      target ∉ suppressor.deadlines ∧ suppressor.deadlines.size = suppressor.maximum := by
  simp [full]

/-- A cooldown is recorded where there is room and its deadline is representable. -/
theorem note503_spec (suppressor : RetrySuppressor) (target : UInt64) (now : Duration)
    (retry : RetryAfter) :
    (∃ deadline, suppressor.full target = false ∧
      now.checkedAdd (.fromSecs retry.seconds) = some deadline ∧
      suppressor.note503 target now retry =
        ({ suppressor with deadlines := suppressor.deadlines.insert target deadline }, .ok ())) ∨
    suppressor.note503 target now retry = (suppressor, .error .timeOverflow) ∨
    suppressor.full target = true ∧ suppressor.note503 target now retry =
        (suppressor, .error .suppressionCapacityExceeded) := by
  rw [note503]
  split_ifs with isFull
  · exact .inr (.inr ⟨isFull, rfl⟩)
  · cases added : now.checkedAdd (.fromSecs retry.seconds) with
    | none => exact .inr (.inl rfl)
    | some deadline => exact .inl ⟨deadline, by simpa using isFull, rfl, rfl⟩

theorem note503_full_iff {target : UInt64} {now : Duration}
    {retry : RetryAfter} :
    (suppressor.note503 target now retry).2 = .error .suppressionCapacityExceeded ↔
      suppressor.full target = true := by
  rw [note503]
  split_ifs with isFull
  · exact iff_of_true rfl isFull
  · cases now.checkedAdd (.fromSecs retry.seconds) <;> simp [isFull]

/-- What a question does to the table. -/
theorem mayAttempt_spec (suppressor : RetrySuppressor) (target : UInt64) (now : Duration) :
    (∃ deadline, suppressor.deadlines.lookup target = some deadline ∧
      now.asNanos < deadline.asNanos ∧ suppressor.mayAttempt target now = (suppressor, false)) ∨
    (∃ deadline, suppressor.deadlines.lookup target = some deadline ∧
      deadline.asNanos ≤ now.asNanos ∧
      suppressor.mayAttempt target now =
        ({ suppressor with deadlines := suppressor.deadlines.erase target }, true)) ∨
    suppressor.deadlines.lookup target = none ∧
      suppressor.mayAttempt target now = (suppressor, true) := by
  rw [mayAttempt]
  cases found : suppressor.deadlines.lookup target with
  | none => exact .inr (.inr ⟨rfl, rfl⟩)
  | some deadline =>
    dsimp only
    split_ifs with waiting
    · exact .inl ⟨deadline, rfl, waiting, rfl⟩
    · exact .inr (.inl ⟨deadline, rfl, Nat.le_of_not_lt waiting, rfl⟩)

theorem maximum_step (suppressor : RetrySuppressor) (call : SuppressorCall) :
    (suppressor.step call).1.maximum = suppressor.maximum := by
  cases call with
  | note503 target now retry =>
    change (suppressor.note503 target now retry).1.maximum = _
    obtain ⟨_, _, _, noted⟩ | noted | ⟨_, noted⟩ := suppressor.note503_spec target now retry
    all_goals rw [noted]
  | mayAttempt target now =>
    change (suppressor.mayAttempt target now).1.maximum = _
    obtain ⟨_, _, _, asked⟩ | ⟨_, _, _, asked⟩ | ⟨_, asked⟩ :=
      suppressor.mayAttempt_spec target now
    all_goals rw [asked]

/-- The table never holds more entries than its maximum. -/
theorem size_step_le (bounded : suppressor.deadlines.size ≤ suppressor.maximum)
    (call : SuppressorCall) :
    (suppressor.step call).1.deadlines.size ≤ suppressor.maximum := by
  cases call with
  | note503 target now retry =>
    change (suppressor.note503 target now retry).1.deadlines.size ≤ _
    obtain ⟨deadline, room, -, noted⟩ | noted | ⟨-, noted⟩ :=
      suppressor.note503_spec target now retry
    · rw [noted]
      by_cases known : target ∈ suppressor.deadlines
      · rw [KeyMap.size_insert_of_mem known]
        exact bounded
      · rw [KeyMap.size_insert_of_not_mem known]
        refine Nat.lt_of_le_of_ne bounded fun same => ?_
        rw [full_iff.mpr ⟨known, same⟩] at room
        cases room
    · rw [noted]
      exact bounded
    · rw [noted]
      exact bounded
  | mayAttempt target now =>
    change (suppressor.mayAttempt target now).1.deadlines.size ≤ _
    obtain ⟨_, _, _, asked⟩ | ⟨_, _, _, asked⟩ | ⟨_, asked⟩ :=
      suppressor.mayAttempt_spec target now
    · rw [asked]
      exact bounded
    · rw [asked]
      exact (KeyMap.size_erase_le _ _).trans bounded
    · rw [asked]
      exact bounded

end RetrySuppressor

/-- The entries follow the history: each is the latest deadline of its target, and the
latest deadline of a target without an entry is over. -/
structure FollowsHistory
    (times : List Nat) (history : List (SuppressorCall × SuppressorOutcome))
    (suppressor : RetrySuppressor) : Prop where
  known : ∀ target deadline, suppressor.deadlines.lookup target = some deadline →
    latestDeadline target history = some deadline
  passed : ∀ target deadline, suppressor.deadlines.lookup target = none →
    latestDeadline target history = some deadline → ∃ time ∈ times, deadline.asNanos ≤ time

theorem latestDeadline_concat
    (target : UInt64) (history : List (SuppressorCall × SuppressorOutcome))
    (entry : SuppressorCall × SuppressorOutcome) :
    latestDeadline target (history ++ [entry]) =
      nextDeadline target (latestDeadline target history) entry :=
  foldl_concat ..

/-- A call that records nothing leaves the deadlines. -/
theorem latestDeadline_concat_unrecorded
    (target : UInt64) (history : List (SuppressorCall × SuppressorOutcome))
    {call : SuppressorCall} {outcome : SuppressorOutcome} (unrecorded : outcome ≠ .noted (.ok ())) :
    latestDeadline target (history ++ [(call, outcome)]) = latestDeadline target history := by
  rw [latestDeadline_concat, nextDeadline.eq_def]
  split
  next other now retry same =>
    cases same
    exact absurd rfl unrecorded
  next => rfl

section

variable {times : List Nat} {history : List (SuppressorCall × SuppressorOutcome)}
  {suppressor : RetrySuppressor}

variable {call : SuppressorCall} {target : UInt64}

/-- A table that stays follows the history with a call that records nothing. -/
theorem FollowsHistory.stay
    (follows : FollowsHistory times history suppressor)
    (time : Nat)
    {outcome : SuppressorOutcome}
    (unrecorded : outcome ≠ .noted (.ok ())) :
    FollowsHistory (times ++ [time]) (history ++ [(call, outcome)]) suppressor := by
  refine ⟨fun target deadline found => ?_, fun target deadline absent latest => ?_⟩
  · rw [latestDeadline_concat_unrecorded target history unrecorded]
    exact follows.known target deadline found
  · rw [latestDeadline_concat_unrecorded target history unrecorded] at latest
    obtain ⟨earlier, inside, ended⟩ := follows.passed target deadline absent latest
    exact ⟨earlier, mem_append_left _ inside, ended⟩

/-- A cooldown that is recorded is the latest of its target. -/
theorem FollowsHistory.record
    (follows : FollowsHistory times history suppressor)
    {now deadline : Duration}
    {retry : RetryAfter}
    (added : now.checkedAdd (.fromSecs retry.seconds) = some deadline) (time : Nat) :
    FollowsHistory (times ++ [time])
      (history ++ [(.note503 target now retry, .noted (.ok ()))])
      { suppressor with deadlines := suppressor.deadlines.insert target deadline } := by
  have latest (other : UInt64) :
      latestDeadline other (history ++ [(.note503 target now retry, .noted (.ok ()))]) =
        if target = other then some deadline else latestDeadline other history := by
    rw [latestDeadline_concat, ← added]
    rfl
  refine ⟨fun other until_ found => ?_, fun other until_ absent recorded => ?_⟩
  · rw [latest]
    obtain ⟨rfl, rfl⟩ | ⟨apart, before⟩ := KeyMap.lookup_insert_cases found
    · rw [if_pos rfl]
    · rw [if_neg (Ne.symm apart)]
      exact follows.known other until_ before
  · rw [latest] at recorded
    have different : other ≠ target := by
      rintro rfl
      rw [AList.lookup_insert] at absent
      cases absent
    rw [AList.lookup_insert_ne different] at absent
    rw [if_neg (Ne.symm different)] at recorded
    obtain ⟨earlier, inside, ended⟩ := follows.passed other until_ absent recorded
    exact ⟨earlier, mem_append_left _ inside, ended⟩

/-- An entry may leave when its deadline is over. -/
theorem FollowsHistory.erase
    (follows : FollowsHistory times history suppressor) {deadline : Duration} {time : Nat}
    (found : suppressor.deadlines.lookup target = some deadline)
    (ended : deadline.asNanos ≤ time)
    {outcome : SuppressorOutcome}
    (unrecorded : outcome ≠ .noted (.ok ())) :
    FollowsHistory (times ++ [time]) (history ++ [(call, outcome)])
      { suppressor with deadlines := suppressor.deadlines.erase target } := by
  have stays : FollowsHistory (times ++ [time]) (history ++ [(call, outcome)]) suppressor :=
    follows.stay time unrecorded
  refine ⟨fun other until_ kept => ?_, fun other until_ absent recorded => ?_⟩
  · exact stays.known other until_ (KeyMap.lookup_of_erase kept).2
  · by_cases same : other = target
    · subst same
      rw [stays.known other deadline found] at recorded
      cases recorded
      exact ⟨time, mem_append_right _ (mem_singleton_self time), ended⟩
    · rw [AList.lookup_erase_ne same] at absent
      exact stays.passed other until_ absent recorded

/-- Every call keeps the table true to its history. -/
theorem FollowsHistory.step
    (follows : FollowsHistory times history suppressor) (call : SuppressorCall) :
    FollowsHistory (times ++ [call.now]) (history ++ [(call, (suppressor.step call).2)])
      (suppressor.step call).1 := by
  cases call with
  | note503 target now retry =>
    rw [RetrySuppressor.step]
    obtain ⟨deadline, -, added, noted⟩ | noted | ⟨-, noted⟩ :=
      suppressor.note503_spec target now retry
    · rw [noted]
      exact follows.record added _
    · rw [noted]
      exact follows.stay _ nofun
    · rw [noted]
      exact follows.stay _ nofun
  | mayAttempt target now =>
    rw [RetrySuppressor.step]
    obtain ⟨deadline, -, -, asked⟩ | ⟨deadline, found, ended, asked⟩ | ⟨-, asked⟩ :=
      suppressor.mayAttempt_spec target now
    · rw [asked]
      exact follows.stay _ nofun
    · rw [asked]
      exact follows.erase found ended nofun
    · rw [asked]
      exact follows.stay _ nofun

/-- While times do not go back, the cooldowns that last are those of the table. -/
theorem FollowsHistory.coolingDown_iff
    (follows : FollowsHistory times history suppressor)
    {now : Duration} (ordered : ∀ time ∈ times, time ≤ now.asNanos) :
    CoolingDown history target now ↔
      ∃ deadline, suppressor.deadlines.lookup target = some deadline ∧
        now.asNanos < deadline.asNanos := by
  constructor
  · rintro ⟨deadline, latest, waiting⟩
    cases found : suppressor.deadlines.lookup target with
    | some entry =>
      rw [follows.known target entry found] at latest
      cases latest
      exact ⟨_, rfl, waiting⟩
    | none =>
      obtain ⟨time, inside, ended⟩ := follows.passed target deadline found latest
      exact absurd (ended.trans (ordered time inside)) (Nat.not_le.mpr waiting)
  · rintro ⟨deadline, found, waiting⟩
    exact ⟨deadline, follows.known target deadline found, waiting⟩

/-- A full table has as many lasting cooldowns as it holds exactly when all its entries
last. -/
theorem FollowsHistory.others_iff
    (follows : FollowsHistory times history suppressor)
    {now : Duration} (ordered : ∀ time ∈ times, time ≤ now.asNanos)
    (isFull : suppressor.full target = true) :
    (∃ others : List UInt64, others.Nodup ∧ others.length = suppressor.maximum ∧
        ∀ other ∈ others, other ≠ target ∧ CoolingDown history other now) ↔
      ∀ other deadline, suppressor.deadlines.lookup other = some deadline →
        now.asNanos < deadline.asNanos := by
  obtain ⟨absent, size⟩ := RetrySuppressor.full_iff.mp isFull
  have key {other : UInt64} {deadline : Duration}
      (found : suppressor.deadlines.lookup other = some deadline) :
      other ∈ suppressor.deadlines.keys := by
    rw [← AList.mem_keys, ← AList.lookup_isSome, found]
    rfl
  constructor
  · rintro ⟨others, distinct, many, each⟩ other deadline found
    have inside : others ⊆ suppressor.deadlines.keys := by
      intro each_ member
      obtain ⟨_, held, -⟩ := (follows.coolingDown_iff ordered).mp (each each_ member).2
      exact key held
    have all := (subperm_of_subset distinct inside).perm_of_length_le (by rw [many, ← size]; rfl)
    obtain ⟨_, held, waiting⟩ :=
      (follows.coolingDown_iff ordered).mp (each other (all.mem_iff.mpr (key found))).2
    rw [found] at held
    cases held
    exact waiting
  · intro waiting
    refine ⟨suppressor.deadlines.keys, suppressor.deadlines.keys_nodup, size, ?_⟩
    intro other member
    obtain ⟨deadline, found⟩ := Option.isSome_iff_exists.mp
      (AList.lookup_isSome.mpr (AList.mem_keys.mpr member))
    refine ⟨?_, (follows.coolingDown_iff ordered).mpr ⟨deadline, found, waiting other _ found⟩⟩
    rintro rfl
    exact absent (AList.mem_keys.mpr member)

/-- A call returns what the history calls for exactly where no cooldown that is over keeps
its target out. -/
theorem FollowsHistory.returns_iff
    (follows : FollowsHistory times history suppressor)
    (ordered : ∀ time ∈ times, time ≤ call.now) :
    Returns suppressor.maximum history call (suppressor.step call).2 ↔ suppressor.Fresh call := by
  cases call with
  | note503 target now retry =>
    change (SuppressorOutcome.noted (suppressor.note503 target now retry).2 = _ → _) ↔
      (suppressor.full target = true → _)
    rw [SuppressorOutcome.noted.injEq, RetrySuppressor.note503_full_iff]
    exact forall_congr' fun isFull => follows.others_iff ordered isFull
  | mayAttempt target now =>
    refine iff_of_true ?_ trivial
    change SuppressorOutcome.permission (suppressor.mayAttempt target now).2 = _ ↔ _
    rw [SuppressorOutcome.permission.injEq, follows.coolingDown_iff ordered]
    obtain ⟨deadline, found, waiting, asked⟩ | ⟨deadline, found, ended, asked⟩ |
      ⟨absent, asked⟩ := suppressor.mayAttempt_spec target now
    · rw [asked]
      exact iff_of_true rfl ⟨deadline, found, waiting⟩
    · rw [asked]
      refine iff_of_false nofun ?_
      rintro ⟨other, held, waiting⟩
      rw [found] at held
      cases held
      exact Nat.not_le.mpr waiting ended
    · rw [asked]
      refine iff_of_false nofun ?_
      rintro ⟨other, held, -⟩
      rw [absent] at held
      cases held

end

section

variable {maximum : Nat} {granted : Bool} {fresh : RetrySuppressor}
  (created : RetrySuppressor.new maximum granted = .ok fresh)

include created

theorem deadlines_of_new : fresh.deadlines = ∅ ∧ fresh.maximum = maximum := by
  rw [RetrySuppressor.new] at created
  split_ifs at created
  cases created
  exact ⟨rfl, rfl⟩

/-- Every reached table is bounded and follows its history. -/
theorem followsHistory_run (calls : List SuppressorCall) :
    (after RetrySuppressor.step fresh calls).maximum = fresh.maximum ∧
      (after RetrySuppressor.step fresh calls).deadlines.size ≤ fresh.maximum ∧
      FollowsHistory (calls.map SuppressorCall.now) (Run.history RetrySuppressor.step fresh calls)
        (after RetrySuppressor.step fresh calls) := by
  have empty := (deadlines_of_new created).1
  have nothing (target : UInt64) : fresh.deadlines.lookup target = none := by
    rw [empty]
    exact AList.lookup_empty target
  refine @history_invariant _ _ _ _ _ (fun calls suppressor =>
    suppressor.maximum = fresh.maximum ∧ suppressor.deadlines.size ≤ fresh.maximum ∧
      FollowsHistory (calls.map SuppressorCall.now)
        (Run.history RetrySuppressor.step fresh calls) suppressor) ?_ ?_ calls
  · refine ⟨rfl, ?_, ⟨fun target deadline found => ?_, fun target deadline _ latest => ?_⟩⟩
    · rw [empty]
      exact Nat.zero_le _
    · rw [nothing] at found
      cases found
    · cases latest
  · rintro earlier call ⟨same, bounded, follows⟩
    rw [← same] at bounded
    refine ⟨(RetrySuppressor.maximum_step _ call).trans same, ?_, ?_⟩
    · rw [← same]
      exact RetrySuppressor.size_step_le bounded call
    · rw [map_append, history_concat]
      exact follows.step call

theorem suppresses_iff_of_ordered
    {earlier : List SuppressorCall} {call : SuppressorCall}
    (ordered : ∀ other ∈ earlier, other.now ≤ call.now) :
    Suppresses fresh earlier call ↔ (after RetrySuppressor.step fresh earlier).Fresh call := by
  obtain ⟨same, -, follows⟩ := followsHistory_run created earlier
  have returns : Returns _ _ call _ ↔ _ := follows.returns_iff (by simpa using ordered)
  rw [same] at returns
  rw [← returns]
  exact and_iff_right (followsHistory_run created (earlier ++ [call])).2.1

/-- In a run whose times do not go back, suppression does at every step what it is for
exactly if no cooldown that is over ever keeps a new target out of the full table. -/
theorem suppresses_iff_fresh
    {calls : List SuppressorCall} (ordered : InCallOrder calls) :
    AllSteps (Suppresses fresh) calls ↔ AllSteps (fun earlier call =>
        (after RetrySuppressor.step fresh earlier).Fresh call) calls := by
  refine forall_congr' fun earlier => forall_congr' fun call => forall_congr' fun later =>
    forall_congr' fun split => ?_
  refine suppresses_iff_of_ordered created fun other member => ?_
  rw [InCallOrder, split, map_append, map_cons, pairwise_append] at ordered
  exact ordered.2.2 _ (mem_map_of_mem member) _ (mem_cons_self ..)

end

/-- A cooldown of five seconds from the start of a run. -/
def firstCooldown : SuppressorCall := .note503 1 (.fromSecs 0) ⟨5⟩

/-- A cooldown of another target after ten seconds. -/
def secondCooldown : SuppressorCall := .note503 2 (.fromSecs 10) ⟨5⟩

/-- The first target is tried within its cooldown and after it, and the second one is noted. -/
def elapsedCooldown : List SuppressorCall :=
  [firstCooldown, .mayAttempt 1 (.fromSecs 3), .mayAttempt 1 (.fromSecs 6), secondCooldown]

theorem suppresses_iff_fresh_elapsedCooldown :
    AllSteps (Suppresses ⟨∅, 1⟩) elapsedCooldown ↔ AllSteps (fun earlier call =>
        (after RetrySuppressor.step ⟨∅, 1⟩ earlier).Fresh call) elapsedCooldown :=
  suppresses_iff_fresh (rfl : RetrySuppressor.new 1 true = .ok _) (by decide)

/-- The table of one entry refuses the second cooldown for the first one, which has been
over for five seconds. -/
theorem not_suppresses_secondCooldown :
    RetrySuppressor.new 1 true = .ok ⟨∅, 1⟩ ∧ InCallOrder [firstCooldown, secondCooldown] ∧
      ¬AllSteps (Suppresses ⟨∅, 1⟩) [firstCooldown, secondCooldown] := by
  refine ⟨rfl, by decide, fun all => ?_⟩
  have step := all [firstCooldown] secondCooldown [] rfl
  rw [suppresses_iff_of_ordered (rfl : RetrySuppressor.new 1 true = .ok _) (by decide)] at step
  have waiting := step (by decide) 1 (.fromSecs 5) rfl
  exact absurd waiting (by decide)

end Runtime
end LiveAISIP
