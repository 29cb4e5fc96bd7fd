import LiveAISIP.Call.Branch
import LiveAISIP.Library.Run
import Mathlib.Data.List.Nodup

/-!
# The order of branch states

A branch of a forked INVITE goes from early over confirmed to terminated.  The set of
branches writes down whatever the last call on a branch said, so the order of the
calls decides whether a branch ever goes back.
-/

namespace LiveAISIP
namespace Call

open List

/-- The place of a state in the lifecycle of a branch. -/
def BranchState.rank : BranchState → Nat
  | early => 0
  | confirmed => 1
  | terminated => 2

/-- A call on a set of branches. -/
structure ForkCall where
  id : DialogBranchId
  state : BranchState

namespace ForkSet

variable {forks : ForkSet} {id : DialogBranchId} {call : ForkCall} {calls : List ForkCall}

variable {state : BranchState}

/-- One call; a refused one leaves the set alone. -/
def note (forks : ForkSet) (call : ForkCall) : ForkSet × Except ForkError Unit :=
  let outcome :=
    match call.state with
    | .early => forks.noteEarly call.id
    | .confirmed => forks.noteConfirmed call.id
    | .terminated => forks.noteTerminated call.id
  match outcome with
  | .ok updated => (updated, .ok ())
  | .error error => (forks, .error error)

/-- The set after a list of calls. -/
def reached (calls : List ForkCall) : ForkSet := Run.after note empty calls

/-- No branch goes back to an earlier state, or is forgotten. -/
def NeverGoesBack (calls : List ForkCall) : Prop :=
  ∀ earlier later rest, calls = earlier ++ later ++ rest →
    ∀ id before, (reached earlier).state id = some before →
      ∃ after, (reached (earlier ++ later)).state id = some after ∧ before.rank ≤ after.rank

/-- The first branches that calls name, as many as a set retains. -/
def firstNamed (calls : List ForkCall) : List DialogBranchId := calls.foldl (fun ids call =>
    if call.id ∈ ids ∨ ids.length = maxForkedDialogs then ids else ids ++ [call.id]) []

/-- A later call on a branch that the set retains is not for an earlier state. -/
def Ordered (calls : List ForkCall) : Prop :=
  (calls.filter fun call => call.id ∈ firstNamed calls).Pairwise fun earlier later =>
    earlier.id = later.id → earlier.state.rank ≤ later.state.rank

theorem note_eq (forks : ForkSet) (call : ForkCall) : (forks.note call).1 =
      match forks.upsert call.id call.state with
      | .ok updated => updated
      | .error _ => forks := by
  obtain ⟨id, state⟩ := call
  unfold note
  cases state with
  | early =>
    simp only [noteEarly]
    cases forks.upsert id .early <;> rfl
  | confirmed =>
    simp only [noteConfirmed]
    cases forks.upsert id .confirmed <;> rfl
  | terminated =>
    simp only [noteTerminated]
    cases forks.upsert id .terminated <;> rfl

/-- The state of a branch that the set retains. -/
theorem state_eq_some :
    forks.state id = some state ↔ ⟨id, state⟩ ∈ forks.branches := by
  rw [ForkSet.state, Option.map_eq_some_iff]
  constructor
  · rintro ⟨branch, found, rfl⟩
    have member := mem_of_find?_eq_some found
    obtain rfl : branch.id = id := by simpa using find?_some found
    exact member
  · intro member
    obtain ⟨branch, found⟩ : ∃ branch,
        forks.branches.find? (fun branch => branch.id = id) = some branch := by
      rw [← Option.isSome_iff_exists, find?_isSome]
      exact ⟨_, member, by simp⟩
    have sameId : branch.id = id := by simpa using find?_some found
    have same : branch = ⟨id, state⟩ :=
      inj_on_of_nodup_map forks.distinct (mem_of_find?_eq_some found) member sameId
    exact ⟨branch, found, by rw [same]⟩

/-- The retained branches are those with a state. -/
theorem knows_iff :
    forks.Knows id ↔ ∃ state, forks.state id = some state := by
  simp only [state_eq_some, Knows, mem_map]
  constructor
  · rintro ⟨branch, member, rfl⟩
    exact ⟨branch.state, member⟩
  · rintro ⟨state, member⟩
    exact ⟨_, member, rfl⟩

/-- A call that is admitted writes down its own state and no other. -/
theorem state_note_of_admits (admits : forks.Admits call.id) :
    (forks.note call).1.state call.id = some call.state ∧
      ∀ id, id ≠ call.id → (forks.note call).1.state id = forks.state id := by
  obtain ⟨updated, upserted, members⟩ := upsert_of_admits admits call.state
  have noted : (forks.note call).1 = updated := by rw [note_eq, upserted]
  rw [noted]
  refine ⟨state_eq_some.mpr ((members _).mpr (.inl rfl)), ?_⟩
  intro id other
  ext state
  simp [state_eq_some, members, other]

/-- A call that is not admitted changes nothing. -/
theorem note_of_not_admits (refused : ¬forks.Admits call.id) :
    (forks.note call).1 = forks := by
  rw [note_eq, upsert_of_not_admits refused]

/-- A call adds its branch to the identities of the set when there is room. -/
theorem ids_note (forks : ForkSet) (call : ForkCall) : (forks.note call).1.branches.map Branch.id =
      if call.id ∈ forks.branches.map Branch.id ∨
          (forks.branches.map Branch.id).length = maxForkedDialogs then
        forks.branches.map Branch.id
      else
        forks.branches.map Branch.id ++ [call.id] := by
  rw [note_eq, upsert]
  by_cases known : forks.Knows call.id
  · rw [dif_pos known, if_pos (.inl known)]
    exact overwrite_ids call.id call.state forks.branches
  · by_cases full : forks.branches.length = maxForkedDialogs
    · rw [dif_neg known, dif_pos full, if_pos (.inr (by simpa using full))]
    · have room : ¬(call.id ∈ forks.branches.map Branch.id ∨
          (forks.branches.map Branch.id).length = maxForkedDialogs) :=
        not_or.mpr ⟨known, by simpa using full⟩
      rw [dif_neg known, dif_neg full, if_neg room]
      simp

theorem reached_concat (calls : List ForkCall) (call : ForkCall) :
    reached (calls ++ [call]) = ((reached calls).note call).1 := by
  simp [reached]

/-- The set retains the branches that were named first. -/
theorem ids_reached (calls : List ForkCall) :
    (reached calls).branches.map Branch.id = firstNamed calls := by
  induction calls using reverseRecOn with
  | nil => rfl
  | append_singleton earlier call ih =>
    rw [reached_concat, ids_note, ih, firstNamed, firstNamed, foldl_append]
    rfl

theorem knows_reached :
    (reached calls).Knows id ↔ id ∈ firstNamed calls := by
  rw [Knows, ids_reached]

/-- The state of a branch is that of one of the calls. -/
theorem call_of_state
    (recorded : (reached calls).state id = some state) : ⟨id, state⟩ ∈ calls := by
  induction calls using reverseRecOn with
  | nil => simp [reached, empty, ForkSet.state] at recorded
  | append_singleton earlier call ih =>
    rw [reached_concat] at recorded
    by_cases admits : (reached earlier).Admits call.id
    · obtain ⟨own, others⟩ := state_note_of_admits admits
      by_cases same : id = call.id
      · subst same
        obtain rfl : call.state = state := by simpa [own] using recorded
        simp
      · rw [others id same] at recorded
        simp [ih recorded]
    · rw [note_of_not_admits admits] at recorded
      simp [ih recorded]

/-- A branch that was named and not retained found the set full. -/
theorem full_of_named
    (named : call ∈ calls) (unknown : ¬(reached calls).Knows call.id) :
    (reached calls).branches.length = maxForkedDialogs := by
  induction calls using reverseRecOn with
  | nil => simp at named
  | append_singleton earlier last ih =>
    have sizes := congrArg length (ids_note (reached earlier) last)
    rw [reached_concat] at unknown ⊢
    rw [Knows, ids_note] at unknown
    split_ifs at sizes unknown with kept
    · rw [length_map, length_map] at sizes
      rw [sizes]
      rw [mem_append, mem_singleton] at named
      rcases named with named | rfl
      · exact ih named unknown
      · simpa using kept.resolve_left unknown
    · rw [not_or] at kept
      rw [mem_append, mem_singleton] at named unknown
      rcases named with named | rfl
      · have full := ih named fun known => unknown (.inl known)
        exact absurd (by simpa using full) kept.2
      · exact absurd (.inr rfl) unknown

/-- One call takes no branch back to an earlier state. -/
def StepKeepsOrder (earlier : List ForkCall) (call : ForkCall) : Prop :=
  ∀ id before, (reached earlier).state id = some before →
    ∃ after, (reached (earlier ++ [call])).state id = some after ∧ before.rank ≤ after.rank

/-- One call on a retained branch is not for an earlier state than a call before. -/
def StepOrdered (earlier : List ForkCall) (call : ForkCall) : Prop := call.id ∈ firstNamed earlier →
    ∀ prior ∈ earlier, prior.id = call.id → prior.state.rank ≤ call.state.rank

theorem neverGoesBack_iff_allSteps (calls : List ForkCall) :
    NeverGoesBack calls ↔ Run.AllSteps StepKeepsOrder calls := by
  constructor
  · intro never earlier call later split id before recorded
    exact never earlier [call] later (by simp [split]) id before recorded
  · intro keeps earlier later
    induction later using reverseRecOn with
    | nil =>
      intro _ _ id before recorded
      exact ⟨before, by simpa using recorded, Nat.le_refl _⟩
    | append_singleton middle call ih =>
      intro rest split id before recorded
      obtain ⟨between, betweenRecorded, first⟩ :=
        ih (call :: rest) (by simp [split]) id before recorded
      obtain ⟨after, afterRecorded, second⟩ :=
        keeps (earlier ++ middle) call rest (by simp [split]) id between betweenRecorded
      exact ⟨after, by simpa using afterRecorded, Nat.le_trans first second⟩

theorem firstNamed_concat (calls : List ForkCall) (call : ForkCall) : firstNamed (calls ++ [call]) =
      if call.id ∈ firstNamed calls ∨ (firstNamed calls).length = maxForkedDialogs then
        firstNamed calls
      else
        firstNamed calls ++ [call.id] := by
  rw [firstNamed, foldl_append]
  rfl

/-- While there is room, every branch that was named is retained. -/
theorem mem_firstNamed_of_room
    (named : call ∈ calls) (room : (firstNamed calls).length ≠ maxForkedDialogs) :
    call.id ∈ firstNamed calls := by
  by_contra unknown
  have full := full_of_named named (mt knows_reached.mp unknown)
  rw [← length_map (f := Branch.id), ids_reached] at full
  exact room full

theorem ordered_iff_allSteps (calls : List ForkCall) :
    Ordered calls ↔ Run.AllSteps StepOrdered calls := by
  induction calls using reverseRecOn with
  | nil => simp [Ordered]
  | append_singleton earlier call ih =>
    rw [Run.allSteps_concat, ← ih]
    unfold Ordered StepOrdered
    rw [firstNamed_concat]
    by_cases known : call.id ∈ firstNamed earlier
    · rw [if_pos (.inl known), filter_append, pairwise_append]
      simp only [known, filter_cons, decide_true, if_true, filter_nil,
        pairwise_singleton, true_and, mem_singleton, forall_eq,
        mem_filter, decide_eq_true_eq, true_implies]
      refine and_congr_right fun _ => ⟨?_, ?_⟩
      · intro later prior member same
        exact later prior ⟨member, same ▸ known⟩ same
      · intro later prior member same
        exact later prior member.1 same
    · simp only [known, false_or, false_implies, and_true]
      split_ifs with full
      · rw [filter_append]
        simp [known]
      · -- nothing was dropped so far, so the branch is new
        have fresh : ∀ prior ∈ earlier, prior.id ≠ call.id := by
          intro prior member same
          exact known (same ▸ mem_firstNamed_of_room member full)
        have same : earlier.filter (fun prior => prior.id ∈ firstNamed earlier ++ [call.id]) =
            earlier.filter fun prior => prior.id ∈ firstNamed earlier := by
          apply filter_congr
          intro prior member
          simp [fresh prior member]
        rw [filter_append, same, pairwise_append]
        simp only [filter_cons, mem_append, mem_singleton, or_true,
          decide_true, if_true, filter_nil, pairwise_singleton, true_and, forall_eq]
        refine and_iff_left_of_imp fun _ prior member sameId => ?_
        exact absurd sameId (fresh prior (mem_filter.mp member).1)

/-- While no branch went back, the recorded state is the last of its branch. -/
theorem rank_le_recorded (keeps : Run.AllSteps StepKeepsOrder calls)
    {prior : ForkCall}
    (named : prior ∈ calls)
    (recorded : (reached calls).state prior.id = some state) :
    prior.state.rank ≤ state.rank := by
  induction calls using reverseRecOn generalizing state with
  | nil => simp at named
  | append_singleton earlier call ih =>
    obtain ⟨earlierKeeps, stepKeeps⟩ := (Run.allSteps_concat _ _ _).mp keeps
    rw [mem_append, mem_singleton] at named
    rcases named with named | rfl
    · by_cases known : (reached earlier).Knows prior.id
      · obtain ⟨before, before_eq⟩ := knows_iff.mp known
        obtain ⟨after, after_eq, step⟩ := stepKeeps prior.id before before_eq
        obtain rfl : after = state := by simpa [after_eq] using recorded
        exact Nat.le_trans (ih earlierKeeps named before_eq) step
      · -- the set was full when the branch was named, and it stays so
        have full := full_of_named named known
        have unchanged := ids_note (reached earlier) call
        rw [if_pos (.inr (by simpa using full)), ← reached_concat] at unchanged
        have stillUnknown : ¬(reached (earlier ++ [call])).Knows prior.id := by
          rw [Knows, unchanged]
          exact known
        exact absurd (knows_iff.mpr ⟨state, recorded⟩) stillUnknown
    · have known := knows_iff.mpr ⟨state, recorded⟩
      rw [reached_concat] at recorded known
      by_cases admits : (reached earlier).Admits prior.id
      · rw [(state_note_of_admits admits).1] at recorded
        cases recorded
        exact Nat.le_refl _
      · rw [note_of_not_admits admits] at known
        exact absurd (.inl known) admits

theorem stepKeepsOrder_iff
    {earlier : List ForkCall} (keeps : Run.AllSteps StepKeepsOrder earlier) (call : ForkCall) :
    StepKeepsOrder earlier call ↔ StepOrdered earlier call := by
  unfold StepKeepsOrder StepOrdered
  rw [reached_concat]
  constructor
  · intro step retained prior named same
    have known := knows_reached.mpr retained
    obtain ⟨before, before_eq⟩ := knows_iff.mp known
    obtain ⟨after, after_eq, later⟩ := step call.id before before_eq
    rw [(state_note_of_admits (.inl known)).1] at after_eq
    cases after_eq
    exact Nat.le_trans (rank_le_recorded keeps named (same ▸ before_eq)) later
  · intro ordered id before before_eq
    by_cases admits : (reached earlier).Admits call.id
    · obtain ⟨own, others⟩ := state_note_of_admits admits
      by_cases same : id = call.id
      · subst same
        have retained := knows_reached.mp (knows_iff.mpr ⟨before, before_eq⟩)
        exact ⟨call.state, own, ordered retained ⟨call.id, before⟩ (call_of_state before_eq) rfl⟩
      · exact ⟨before, by rw [others id same, before_eq], Nat.le_refl _⟩
    · exact ⟨before, by rw [note_of_not_admits admits, before_eq], Nat.le_refl _⟩

/-- No branch goes back exactly when the calls on the branches that the set retains
come in the order of the lifecycle. -/
theorem neverGoesBack_iff (calls : List ForkCall) :
    NeverGoesBack calls ↔ Ordered calls := by
  rw [neverGoesBack_iff_allSteps, ordered_iff_allSteps]
  exact Run.allSteps_congr_of_prior (fun _ call keeps => stepKeepsOrder_iff keeps call) calls

/-- A branch for the sample calls. -/
def sampleBranch : DialogBranchId := ⟨"a", Sip.tagA.nonempty, by decide, by decide⟩

/-- A provisional response that comes after the 2xx of its branch, and one that comes
after its end. -/
theorem not_neverGoesBack_late_provisional :
    ¬NeverGoesBack [⟨sampleBranch, .confirmed⟩, ⟨sampleBranch, .early⟩] ∧
      (reached [⟨sampleBranch, .confirmed⟩, ⟨sampleBranch, .early⟩]).state sampleBranch =
        some .early ∧
      ¬NeverGoesBack [⟨sampleBranch, .terminated⟩, ⟨sampleBranch, .early⟩] ∧
      (reached [⟨sampleBranch, .terminated⟩]).hasLiveBranches = false ∧
      (reached [⟨sampleBranch, .terminated⟩, ⟨sampleBranch, .early⟩]).hasLiveBranches = true := by
  refine ⟨?_, by decide, ?_, by decide, by decide⟩
  · intro never
    obtain ⟨after, after_eq, later⟩ :=
      never [⟨sampleBranch, .confirmed⟩] [⟨sampleBranch, .early⟩] [] rfl sampleBranch
        .confirmed (by decide)
    cases (after_eq : some BranchState.early = some after)
    simp [BranchState.rank] at later
  · intro never
    obtain ⟨after, after_eq, later⟩ :=
      never [⟨sampleBranch, .terminated⟩] [⟨sampleBranch, .early⟩] [] rfl sampleBranch
        .terminated (by decide)
    cases (after_eq : some BranchState.early = some after)
    simp [BranchState.rank] at later

end ForkSet
end Call
end LiveAISIP
