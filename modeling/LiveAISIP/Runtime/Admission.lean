import LiveAISIP.Library.AtomicCounter
import LiveAISIP.Library.Run
import Mathlib.Data.List.Nodup
import Mathlib.Data.List.Perm.Basic

/-!
# Overload admission

The gate of `runtime/admission/mod.rs`.  Any number of parties admit calls, hold leases,
collect them in groups and let them go, and one of them may begin the shutdown.  Every
step reads or writes a shared word at most once, so a list of steps is an interleaving
of the parties.
-/

namespace LiveAISIP
namespace Runtime

open AtomicCounter
open List Increment

/-- Maximum calls allowed by one controller. -/
def maxAdmissionCapacity : Nat := 1000000

/-- Maximum permits grouped into one call lease. -/
def maxAdmissionLeasesPerCall : Nat := 16

/-- Admission failure. -/
inductive AdmissionError
  | invalidCapacity
  | invalidSuppressionCapacity
  | allocationFailed
  | suppressionCapacityExceeded
  | timeOverflow
  | tooManyGroupedLeases

/-- A delay in seconds. -/
structure RetryAfter where
  seconds : UInt32
  deriving DecidableEq

/-- The 503 policy of a refused admission. -/
structure OverloadRejection where
  retryAfter : RetryAfter
  deriving DecidableEq

/-- The fixed part of an admission gate. -/
structure AdmissionController where
  maximum : Nat
  retryAfter : RetryAfter
  positive : 0 < maximum
  bounded : maximum ≤ maxAdmissionCapacity

/-- A controller of a bounded capacity. -/
def AdmissionController.new
    (maximum : Nat) (retryAfter : RetryAfter) :
    Except AdmissionError AdmissionController :=
  if accepted : 0 < maximum ∧ maximum ≤ maxAdmissionCapacity then
    .ok ⟨maximum, retryAfter, accepted.1, accepted.2⟩
  else
    .error .invalidCapacity

/-- A capacity lease.  It is named by the call of `try_admit` that returned it; a lease
without a name is of another controller. -/
structure AdmissionLease where
  call : Option Nat
  released : Bool

/-- The call whose count a lease still has to give back. -/
def AdmissionLease.owed (lease : AdmissionLease) : Option Nat :=
  if lease.released then none else lease.call

/-- A bounded group of leases. -/
structure AdmissionLeaseGroup where
  leases : List AdmissionLease
  bounded : leases.length ≤ maxAdmissionLeasesPerCall

namespace AdmissionLeaseGroup

/-- The group without leases. -/
def new : AdmissionLeaseGroup := ⟨[], by simp⟩

/-- Add one lease; `reserved` tells whether its storage could be reserved. -/
def push
    (group : AdmissionLeaseGroup) (lease : AdmissionLease) (reserved : Bool) :
    Except AdmissionError AdmissionLeaseGroup :=
  if room : group.leases.length < maxAdmissionLeasesPerCall then
    if reserved then .ok ⟨group.leases ++ [lease], by simpa using Nat.succ_le_of_lt room⟩
    else .error .allocationFailed
  else
    .error .tooManyGroupedLeases

/-- A pushed lease is the last one of its group. -/
theorem leases_of_push
    {group updated : AdmissionLeaseGroup} {lease : AdmissionLease} {reserved : Bool}
    (pushed : group.push lease reserved = .ok updated) :
    updated.leases = group.leases ++ [lease] := by
  unfold push at pushed
  split_ifs at pushed
  cases pushed
  rfl

end AdmissionLeaseGroup

/-- Where a call of `try_admit` stands. -/
inductive AdmitPhase (maximum : Nat)
  /-- Before the first look at the shutdown flag. -/
  | entering
  /-- Before the load of the counter. -/
  | counting
  /-- Between the load and the compare-exchange. -/
  | trying (seen : Fin maximum)
  /-- Counted, before the second look at the flag. -/
  | counted
  /-- Counted, and about to take the count back. -/
  | refusing
  | admitted
  | rejected (rejection : OverloadRejection)
  deriving DecidableEq

namespace AdmitPhase

/-- The call is between its increment and its return. -/
def holdsCount {maximum : Nat} : AdmitPhase maximum → Bool
  | counted | refusing => true
  | _ => false

/-- The call has returned. -/
def returned {maximum : Nat} : AdmitPhase maximum → Bool
  | admitted | rejected _ => true
  | _ => false

/-- What the loop of the increment makes of a call. -/
def ofIncrement
    (controller : AdmissionController) :
    Increment controller.maximum → AdmitPhase controller.maximum
  | .trying seen => .trying seen
  | .refused => .rejected ⟨controller.retryAfter⟩
  | .done => .counted

end AdmitPhase

/-- The shared words, the calls of `try_admit` in the order they began, and the leases
wherever they are: with a party, in a group, or being dropped. -/
structure Admission (controller : AdmissionController) where
  active : Nat
  accepting : Bool
  calls : List (AdmitPhase controller.maximum)
  held : List AdmissionLease
  groups : List AdmissionLeaseGroup
  dropping : List AdmissionLease

/-- One step of one party. -/
inductive AdmissionStep
  | tryAdmit
  | checkAccepting (call : Nat)
  | load (call : Nat)
  | compareExchange (call : Nat) (spurious : Bool)
  | recheckAccepting (call : Nat)
  | rollBack (call : Nat)
  | acquireElsewhere
  | release (lease : Nat)
  | drop (lease : Nat)
  | newGroup
  | push (group lease : Nat) (reserved : Bool)
  | releaseAll (group : Nat)
  | dropGroup (group : Nat)
  | finishDrop (lease : Nat)
  | beginShutdown

/-- A `fetch_sub` of a step: the value it returned and the lease it was for. -/
structure Subtraction where
  previous : Nat
  lease : Option Nat

namespace Admission

variable {controller : AdmissionController}

variable {state : Admission controller} {call : Nat} {before after : AdmitPhase controller.maximum}

/-- A gate nobody has used. -/
def new (controller : AdmissionController) : Admission controller := ⟨0, true, [], [], [], []⟩

/-- A call comes to its next phase. -/
def advance
    (state : Admission controller) (call : Nat)
    (phase : AdmitPhase controller.maximum) : Admission controller :=
  { state with calls := state.calls.set call phase }

/-- The effect of `release_inner` on the counter; a lease of another controller has
another counter. -/
def releaseInner
    (state : Admission controller) (lease : AdmissionLease) :
    Admission controller × Option Subtraction :=
  match lease.owed with
  | some call =>
    ({ state with active := fetchSub state.active }, some ⟨state.active, some call⟩)
  | none => (state, none)

/-- The first look at the shutdown flag. -/
def checkAccepting (state : Admission controller) (call : Nat) : Admission controller :=
  match state.calls[call]? with
  | some .entering =>
    state.advance call (if state.accepting then .counting else .rejected ⟨controller.retryAfter⟩)
  | _ => state

/-- The load of `fetch_update`. -/
def load (state : Admission controller) (call : Nat) : Admission controller :=
  match state.calls[call]? with
  | some .counting =>
    state.advance call (AdmitPhase.ofIncrement controller (look controller.maximum state.active))
  | _ => state

/-- The compare-exchange of `fetch_update`. -/
def compareExchange
    (state : Admission controller) (call : Nat) (spurious : Bool) : Admission controller :=
  match state.calls[call]? with
  | some (.trying seen) =>
    let (active, increment) := exchange seen state.active spurious
    { state with active := active }.advance call (AdmitPhase.ofIncrement controller increment)
  | _ => state

/-- The second look at the shutdown flag; an admitted call returns its lease. -/
def recheckAccepting (state : Admission controller) (call : Nat) : Admission controller :=
  match state.calls[call]? with
  | some .counted =>
    if state.accepting then
      { state.advance call .admitted with held := state.held ++ [⟨some call, false⟩] }
    else
      state.advance call .refusing
  | _ => state

/-- A refused call takes its count back. -/
def rollBack
    (state : Admission controller) (call : Nat) :
    Admission controller × Option Subtraction :=
  match state.calls[call]? with
  | some .refusing =>
    ({ state with active := fetchSub state.active }.advance call
        (.rejected ⟨controller.retryAfter⟩), some ⟨state.active, none⟩)
  | _ => (state, none)

/-- An explicit release; the lease is dropped afterwards. -/
def release
    (state : Admission controller) (index : Nat) :
    Admission controller × Option Subtraction :=
  match state.held[index]? with
  | some lease =>
    { state with
      held := state.held.eraseIdx index
      dropping := state.dropping ++ [{ lease with released := true }] }.releaseInner lease
  | none => (state, none)

/-- A party drops a lease that it holds. -/
def drop
    (state : Admission controller) (index : Nat) :
    Admission controller × Option Subtraction :=
  match state.held[index]? with
  | some lease =>
    { state with held := state.held.eraseIdx index }.releaseInner lease
  | none => (state, none)

/-- A lease moves into a group, or is dropped by the push that refused it. -/
def push
    (state : Admission controller) (groupIndex index : Nat) (reserved : Bool) :
    Admission controller × Option Subtraction :=
  match state.groups[groupIndex]?, state.held[index]? with
  | some group, some lease =>
    let moved := { state with held := state.held.eraseIdx index }
    match group.push lease reserved with
    | .ok updated => ({ moved with groups := state.groups.set groupIndex updated }, none)
    | .error _ => moved.releaseInner lease
  | _, _ => (state, none)

/-- Every lease of a group is about to be dropped. -/
def releaseAll (state : Admission controller) (index : Nat) : Admission controller :=
  match state.groups[index]? with
  | some group =>
    { state with
      groups := state.groups.set index .new
      dropping := state.dropping ++ group.leases }
  | none => state

/-- A group and with it every lease of it is about to be dropped. -/
def dropGroup (state : Admission controller) (index : Nat) : Admission controller :=
  match state.groups[index]? with
  | some group =>
    { state with
      groups := state.groups.eraseIdx index
      dropping := state.dropping ++ group.leases }
  | none => state

/-- The drop of one lease. -/
def finishDrop
    (state : Admission controller) (index : Nat) :
    Admission controller × Option Subtraction :=
  match state.dropping[index]? with
  | some lease =>
    { state with dropping := state.dropping.eraseIdx index }.releaseInner lease
  | none => (state, none)

/-- One step.  A step that the party cannot take changes nothing. -/
def step (state : Admission controller) : AdmissionStep → Admission controller × Option Subtraction
  | .tryAdmit => ({ state with calls := state.calls ++ [.entering] }, none)
  | .checkAccepting call => (state.checkAccepting call, none)
  | .load call => (state.load call, none)
  | .compareExchange call spurious => (state.compareExchange call spurious, none)
  | .recheckAccepting call => (state.recheckAccepting call, none)
  | .rollBack call => state.rollBack call
  | .acquireElsewhere => ({ state with held := state.held ++ [⟨none, false⟩] }, none)
  | .release index => state.release index
  | .drop index => state.drop index
  | .newGroup => ({ state with groups := state.groups ++ [.new] }, none)
  | .push group index reserved => state.push group index reserved
  | .releaseAll group => (state.releaseAll group, none)
  | .dropGroup group => (state.dropGroup group, none)
  | .finishDrop index => state.finishDrop index
  | .beginShutdown => ({ state with accepting := false }, none)

/-- The gate after a list of steps. -/
def reached (controller : AdmissionController) (steps : List AdmissionStep) :
    Admission controller :=
  Run.after step (new controller) steps

/-- The calls between their increment and their return. -/
def pending (state : Admission controller) : Nat := state.calls.countP AdmitPhase.holdsCount

/-- The calls whose leases have not given their count back. -/
def live (state : Admission controller) : List Nat :=
  (state.held ++ state.groups.flatMap AdmissionLeaseGroup.leases ++ state.dropping).filterMap
    AdmissionLease.owed

/-- The leases that took one from the counter, in order. -/
def decrements (controller : AdmissionController) (steps : List AdmissionStep) : List Nat :=
  ((Run.outputs step (new controller) steps).filterMap id).filterMap Subtraction.lease

/-- A call that returned a lease. -/
def Issued (state : Admission controller) (call : Nat) : Prop := state.calls[call]? = some .admitted

instance (state : Admission controller) (call : Nat) : Decidable (state.Issued call) :=
  inferInstanceAs (Decidable (_ = _))

/-- How often a call occurs among the leases of a list that owe their count. -/
def owedCount (call : Nat) (leases : List AdmissionLease) : Nat :=
  (leases.filterMap AdmissionLease.owed).count call

@[simp] theorem owedCount_append (call : Nat) (first second : List AdmissionLease) :
    owedCount call (first ++ second) = owedCount call first + owedCount call second := by
  simp [owedCount]

theorem owedCount_perm
    (call : Nat) {first second : List AdmissionLease} (perm : first.Perm second) :
    owedCount call first = owedCount call second :=
  (perm.filterMap _).count_eq call

theorem count_live (state : Admission controller) (call : Nat) :
    state.live.count call = owedCount call state.held +
        owedCount call (state.groups.flatMap AdmissionLeaseGroup.leases) +
        owedCount call state.dropping := by
  simp [live, owedCount, Nat.add_assoc]

/-- A lease taken out of a list. -/
theorem owedCount_eraseIdx
    {leases : List AdmissionLease} {index : Nat} {lease : AdmissionLease}
    (found : leases[index]? = some lease) (call : Nat) :
    owedCount call leases = owedCount call [lease] + owedCount call (leases.eraseIdx index) := by
  obtain ⟨inside, rfl⟩ := List.getElem?_eq_some_iff.mp found
  rw [← owedCount_append]
  exact (owedCount_perm call (getElem_cons_eraseIdx_perm inside)).symm

/-- A group taken out of a list of groups. -/
theorem owedCount_eraseIdx_groups
    {groups : List AdmissionLeaseGroup} {index : Nat} {group : AdmissionLeaseGroup}
    (found : groups[index]? = some group) (call : Nat) :
    owedCount call (groups.flatMap AdmissionLeaseGroup.leases) = owedCount call group.leases +
        owedCount call ((groups.eraseIdx index).flatMap AdmissionLeaseGroup.leases) := by
  obtain ⟨inside, rfl⟩ := List.getElem?_eq_some_iff.mp found
  have perm := (getElem_cons_eraseIdx_perm inside).flatMap_right AdmissionLeaseGroup.leases
  rw [← owedCount_perm call perm, flatMap_cons, owedCount_append]

/-- A group replaced in a list of groups. -/
theorem owedCount_set_groups
    {groups : List AdmissionLeaseGroup} {index : Nat} {group : AdmissionLeaseGroup}
    (found : groups[index]? = some group) (updated : AdmissionLeaseGroup) (call : Nat) :
    owedCount call ((groups.set index updated).flatMap AdmissionLeaseGroup.leases) +
        owedCount call group.leases =
      owedCount call (groups.flatMap AdmissionLeaseGroup.leases) +
        owedCount call updated.leases := by
  obtain ⟨inside, -⟩ := List.getElem?_eq_some_iff.mp found
  have perm := (set_perm_cons_eraseIdx inside updated).flatMap_right AdmissionLeaseGroup.leases
  rw [owedCount_perm call perm, flatMap_cons, owedCount_append,
    owedCount_eraseIdx_groups found call]
  omega

/-- The counter, the calls that hold a count, and the leases that owe theirs move
together in one of five ways. -/
inductive Change (old : Admission controller) : Option Subtraction → Admission controller → Prop
  | idle {new : Admission controller}
      (active : new.active = old.active)
      (pending : new.pending = old.pending)
      (live : new.live.Perm old.live)
      (issued : ∀ call, new.Issued call ↔ old.Issued call) :
      Change old none new
  | counted {new : Admission controller}
      (room : old.active < controller.maximum)
      (active : new.active = old.active + 1)
      (pending : new.pending = old.pending + 1)
      (live : new.live.Perm old.live)
      (issued : ∀ call, new.Issued call ↔ old.Issued call) :
      Change old none new
  | rolledBack {new : Admission controller}
      (active : new.active = fetchSub old.active)
      (pending : new.pending + 1 = old.pending)
      (live : new.live.Perm old.live)
      (issued : ∀ call, new.Issued call ↔ old.Issued call) :
      Change old (some ⟨old.active, none⟩) new
  | handedOut {new : Admission controller} (admitted : Nat)
      (active : new.active = old.active)
      (pending : new.pending + 1 = old.pending)
      (live : new.live.Perm (admitted :: old.live))
      (fresh : ¬old.Issued admitted)
      (issued : ∀ call, new.Issued call ↔ call = admitted ∨ old.Issued call) :
      Change old none new
  | released {new : Admission controller} (lease : Nat)
      (active : new.active = fetchSub old.active)
      (pending : new.pending = old.pending)
      (live : old.live.Perm (lease :: new.live))
      (issued : ∀ call, new.Issued call ↔ old.Issued call) :
      Change old (some ⟨old.active, some lease⟩) new

/-- Nothing happens. -/
theorem Change.refl (state : Admission controller) : Change state none state :=
  .idle rfl rfl (.refl _) fun _ => .rfl

/-- The count of the calls that hold one, after one call came to another phase. -/
theorem pending_advance
    (found : state.calls[call]? = some before) (after : AdmitPhase controller.maximum) :
    (state.advance call after).pending + before.holdsCount.toNat =
      state.pending + after.holdsCount.toNat :=
  countP_set_add found after AdmitPhase.holdsCount

theorem issued_advance
    (found : state.calls[call]? = some before)
    (after : AdmitPhase controller.maximum) (other : Nat) :
    (state.advance call after).Issued other ↔
      if other = call then after = .admitted else state.Issued other := by
  obtain ⟨inside, -⟩ := List.getElem?_eq_some_iff.mp found
  simp only [Issued, advance, getElem?_set]
  by_cases same : call = other
  · subst same
    simp [inside]
  · simp [same, Ne.symm same]

/-- A call that was not admitted comes to a phase that is not either. -/
theorem issued_advance_of_ne
    (found : state.calls[call]? = some before)
    (beforeNot : before ≠ .admitted) (afterNot : after ≠ .admitted) (other : Nat) :
    (state.advance call after).Issued other ↔ state.Issued other := by
  rw [issued_advance found]
  split_ifs with same
  · subst same
    simp [Issued, found, beforeNot, afterNot]
  · exact .rfl

/-- A call moves between phases that hold no count, or between phases that hold one. -/
theorem Change.of_advance
    (found : state.calls[call]? = some before)
    (beforeNot : before ≠ .admitted) (afterNot : after ≠ .admitted)
    (same : after.holdsCount = before.holdsCount) :
    Change state none (state.advance call after) := by
  refine .idle rfl ?_ (.refl _) (issued_advance_of_ne found beforeNot afterNot)
  have moved := pending_advance found after
  rw [same] at moved
  omega

/-- The result of looking at the counter holds no count and is no admission. -/
theorem ofIncrement_look (controller : AdmissionController) (value : Nat) :
    (AdmitPhase.ofIncrement controller (look controller.maximum value)).holdsCount
        = false ∧
      AdmitPhase.ofIncrement controller (look controller.maximum value) ≠ .admitted := by
  unfold look
  split_ifs <;> simp [AdmitPhase.ofIncrement, AdmitPhase.holdsCount]

/-- A lease that left its place gives back what it owes. -/
theorem Change.of_releaseInner
    {moved : Admission controller} {lease : AdmissionLease}
    (active : moved.active = state.active) (calls : moved.calls = state.calls)
    (live : ∀ call, state.live.count call = owedCount call [lease] + moved.live.count call) :
    Change state (moved.releaseInner lease).2 (moved.releaseInner lease).1 := by
  unfold releaseInner
  cases owed : lease.owed with
  | none =>
    refine .idle active (by simp [pending, calls]) ?_ (by simp [Issued, calls])
    rw [perm_iff_count]
    intro call
    simp [live call, owedCount, owed]
  | some owner =>
    simp only [active]
    refine .released owner rfl (by simp [pending, calls]) ?_ (by simp [Issued, calls])
    rw [perm_iff_count]
    intro call
    rw [live call, count_cons, Nat.add_comm]
    simp [owedCount, owed, Admission.live, count_singleton]

theorem change_tryAdmit (state : Admission controller) :
    Change state none { state with calls := state.calls ++ [.entering] } := by
  refine .idle rfl (by simp [pending, AdmitPhase.holdsCount]) (.refl _) fun call => ?_
  simp only [Issued, getElem?_append]
  split_ifs with inside
  · exact .rfl
  · have outside : state.calls[call]? = none := by simpa using inside
    simp [outside, getElem?_singleton]

theorem change_checkAccepting (state : Admission controller) (call : Nat) :
    Change state none (state.checkAccepting call) := by
  unfold checkAccepting
  split
  · next found =>
    apply Change.of_advance found (by simp)
    · split_ifs <;> simp
    · split_ifs <;> rfl
  · exact .refl state

theorem change_load (state : Admission controller) (call : Nat) :
    Change state none (state.load call) := by
  unfold load
  split
  · next found =>
    obtain ⟨holds, notAdmitted⟩ := ofIncrement_look controller state.active
    exact .of_advance found (by simp) notAdmitted holds
  · exact .refl state

theorem change_compareExchange
    (state : Admission controller) (call : Nat) (spurious : Bool) :
    Change state none (state.compareExchange call spurious) := by
  unfold compareExchange
  split
  · next seen found =>
    rcases exchange_cases seen state.active spurious with ⟨room, result⟩ | result
    · rw [result]
      have moved : (state.advance call .counted).pending = state.pending + 1 := by
        simpa [AdmitPhase.holdsCount] using pending_advance found .counted
      exact .counted room rfl moved (.refl _)
        (issued_advance_of_ne found (by simp) (by simp [AdmitPhase.ofIncrement]))
    · rw [result]
      obtain ⟨holds, notAdmitted⟩ := ofIncrement_look controller state.active
      exact .of_advance found (by simp) notAdmitted holds
  · exact .refl state

theorem change_recheckAccepting (state : Admission controller) (call : Nat) :
    Change state none (state.recheckAccepting call) := by
  unfold recheckAccepting
  split
  · next found =>
    split_ifs
    · have moved : (state.advance call .admitted).pending + 1 = state.pending := by
        simpa [AdmitPhase.holdsCount] using pending_advance found .admitted
      refine .handedOut call rfl moved ?_ (by simp [Issued, found]) fun other => ?_
      · rw [perm_iff_count]
        intro other
        rw [count_cons, count_live, count_live]
        simp only [advance, owedCount_append]
        simp only [owedCount, AdmissionLease.owed, filterMap_cons, filterMap_nil,
          Bool.false_eq_true, if_false, count_singleton]
        omega
      · refine (issued_advance found .admitted other).trans ?_
        by_cases same : other = call <;> simp [same]
    · exact .of_advance found (by simp) (by simp) rfl
  · exact .refl state

theorem change_rollBack (state : Admission controller) (call : Nat) :
    Change state (state.rollBack call).2 (state.rollBack call).1 := by
  unfold rollBack
  split
  · next found =>
    have moved : (state.advance call (.rejected ⟨controller.retryAfter⟩)).pending + 1 =
        state.pending := by
      simpa [AdmitPhase.holdsCount] using pending_advance found (.rejected ⟨controller.retryAfter⟩)
    apply Change.rolledBack
    · rfl
    · exact moved
    · rfl
    · exact issued_advance_of_ne found (by simp) (by simp)
  · exact .refl state

theorem change_release (state : Admission controller) (index : Nat) :
    Change state (state.release index).2 (state.release index).1 := by
  unfold release
  split
  · next lease found =>
    refine Change.of_releaseInner ?_ ?_ fun call => ?_
    · rfl
    · rfl
    have taken := owedCount_eraseIdx found call
    have settled : owedCount call [{ lease with released := true }] = 0 := by
      simp [owedCount, AdmissionLease.owed]
    rw [count_live, count_live]
    simp only [owedCount_append]
    omega
  · exact .refl state

theorem change_drop (state : Admission controller) (index : Nat) :
    Change state (state.drop index).2 (state.drop index).1 := by
  unfold drop
  split
  · next lease found =>
    refine Change.of_releaseInner ?_ ?_ fun call => ?_
    · rfl
    · rfl
    have taken := owedCount_eraseIdx found call
    rw [count_live, count_live]
    dsimp only
    omega
  · exact .refl state

theorem change_push
    (state : Admission controller) (groupIndex index : Nat) (reserved : Bool) :
    Change state (state.push groupIndex index reserved).2
      (state.push groupIndex index reserved).1 := by
  unfold push
  split
  · next group lease groupFound found =>
    dsimp only
    split
    · next updated pushed =>
      refine .idle rfl rfl ?_ fun _ => .rfl
      rw [perm_iff_count]
      intro call
      have taken := owedCount_eraseIdx found call
      have replaced := owedCount_set_groups groupFound updated call
      rw [AdmissionLeaseGroup.leases_of_push pushed, owedCount_append] at replaced
      rw [count_live, count_live]
      dsimp only
      omega
    · refine Change.of_releaseInner ?_ ?_ fun call => ?_
      · rfl
      · rfl
      have taken := owedCount_eraseIdx found call
      rw [count_live, count_live]
      dsimp only
      omega
  · exact .refl state

theorem change_releaseAll (state : Admission controller) (index : Nat) :
    Change state none (state.releaseAll index) := by
  unfold releaseAll
  split
  · next group found =>
    refine .idle rfl rfl ?_ fun _ => .rfl
    rw [perm_iff_count]
    intro call
    have replaced := owedCount_set_groups found .new call
    have emptied : owedCount call AdmissionLeaseGroup.new.leases = 0 := rfl
    rw [count_live, count_live]
    simp only [owedCount_append]
    omega
  · exact .refl state

theorem change_dropGroup (state : Admission controller) (index : Nat) :
    Change state none (state.dropGroup index) := by
  unfold dropGroup
  split
  · next group found =>
    refine .idle rfl rfl ?_ fun _ => .rfl
    rw [perm_iff_count]
    intro call
    have taken := owedCount_eraseIdx_groups found call
    rw [count_live, count_live]
    simp only [owedCount_append]
    omega
  · exact .refl state

theorem change_finishDrop (state : Admission controller) (index : Nat) :
    Change state (state.finishDrop index).2 (state.finishDrop index).1 := by
  unfold finishDrop
  split
  · next lease found =>
    refine Change.of_releaseInner ?_ ?_ fun call => ?_
    · rfl
    · rfl
    have taken := owedCount_eraseIdx found call
    rw [count_live, count_live]
    dsimp only
    omega
  · exact .refl state

/-- Every step is one of the five changes. -/
theorem change_step (state : Admission controller) (action : AdmissionStep) :
    Change state (state.step action).2 (state.step action).1 := by
  cases action with
  | tryAdmit => exact change_tryAdmit state
  | checkAccepting call => exact change_checkAccepting state call
  | load call => exact change_load state call
  | compareExchange call spurious => exact change_compareExchange state call spurious
  | recheckAccepting call => exact change_recheckAccepting state call
  | rollBack call => exact change_rollBack state call
  | acquireElsewhere =>
    refine .idle rfl rfl ?_ fun _ => .rfl
    simp [step, live, AdmissionLease.owed]
  | release index => exact change_release state index
  | drop index => exact change_drop state index
  | newGroup =>
    refine .idle rfl rfl ?_ fun _ => .rfl
    simp [step, live, AdmissionLeaseGroup.new]
  | push group index reserved => exact change_push state group index reserved
  | releaseAll group => exact change_releaseAll state group
  | dropGroup group => exact change_dropGroup state group
  | finishDrop index => exact change_finishDrop state index
  | beginShutdown => exact .idle rfl rfl (.refl _) fun _ => .rfl

/-- The counter is the live leases and the calls that hold a count. -/
structure Counted (state : Admission controller) : Prop where
  active : state.active = state.live.length + state.pending
  bounded : state.active ≤ controller.maximum

/-- A step keeps the count, and takes nothing from a counter at zero. -/
theorem counted_change
    {old new : Admission controller} {subtraction : Option Subtraction}
    (counted : Counted old) (change : Change old subtraction new) :
    Counted new ∧ ∀ taken, subtraction = some taken → 0 < taken.previous := by
  obtain ⟨active, bounded⟩ := counted
  cases change with
  | idle sameActive samePending sameLive issued
  | counted room moreActive morePending sameLive issued =>
    have := sameLive.length_eq
    exact ⟨⟨by omega, by omega⟩, by simp⟩
  | rolledBack lessActive lessPending sameLive issued =>
    have := sameLive.length_eq
    have positive : 0 < old.active := by omega
    have subtracted := fetchSub_add_one positive
    exact ⟨⟨by omega, by omega⟩, by simpa using positive⟩
  | handedOut admitted sameActive lessPending moreLive fresh issued =>
    have := moreLive.length_eq
    rw [length_cons] at this
    exact ⟨⟨by omega, by omega⟩, by simp⟩
  | released lease lessActive samePending lessLive issued =>
    have := lessLive.length_eq
    rw [length_cons] at this
    have positive : 0 < old.active := by omega
    have subtracted := fetchSub_add_one positive
    exact ⟨⟨by omega, by omega⟩, by simpa using positive⟩

theorem counted_new (controller : AdmissionController) : Counted (new controller) where
  active := rfl
  bounded := Nat.zero_le _

theorem counted_reached (controller : AdmissionController) (steps : List AdmissionStep) :
    Counted (reached controller steps) := by
  apply Run.invariant (fun state : Admission controller => Counted state)
  · exact counted_new controller
  · intro state action counted
    exact (counted_change counted (change_step state action)).1

theorem reached_concat
    (controller : AdmissionController) (steps : List AdmissionStep) (action : AdmissionStep) :
    reached controller (steps ++ [action]) = ((reached controller steps).step action).1 := by
  simp [reached]

theorem decrements_concat
    (controller : AdmissionController) (steps : List AdmissionStep) (action : AdmissionStep) :
    decrements controller (steps ++ [action]) = decrements controller steps ++
        (((reached controller steps).step action).2.bind Subtraction.lease).toList := by
  rw [decrements, decrements, Run.outputs_concat, filterMap_append, filterMap_append]
  congr 1
  change _ = Option.toList (Option.bind (Run.output step _ steps action) _)
  cases Run.output step (new controller) steps action with
  | none => rfl
  | some taken => cases lease : taken.lease <;> simp [lease]

/-- Every lease that was handed out is live, or has given its count back once. -/
theorem count_decrements_add
    (controller : AdmissionController) (steps : List AdmissionStep) (call : Nat) :
    (decrements controller steps).count call + (reached controller steps).live.count call =
      if (reached controller steps).Issued call then 1 else 0 := by
  induction steps using reverseRecOn with
  | nil => simp [decrements, reached, new, live, Issued]
  | append_singleton earlier action ih =>
    rw [decrements_concat, reached_concat, count_append]
    have change := change_step (reached controller earlier) action
    generalize ((reached controller earlier).step action).1 = next at change ⊢
    generalize ((reached controller earlier).step action).2 = taken at change ⊢
    cases change with
    | idle active pending live issued | counted room active pending live issued
    | rolledBack active pending live issued =>
      simp only [issued, live.count_eq]
      simpa using ih
    | handedOut admitted active pending live fresh issued =>
      simp only [issued, live.count_eq, count_cons]
      by_cases same : call = admitted
      · subst same
        simp only [fresh, if_false] at ih
        simp only [Option.bind_none, Option.toList_none, count_nil, beq_self_eq_true,
          if_true, true_or]
        omega
      · simpa [same, Ne.symm same] using ih
    | released lease active pending live issued =>
      rw [live.count_eq, count_cons] at ih
      simp only [issued, ← ih, Option.bind_some, Option.toList_some, count_singleton]
      omega

/-- After the shutdown began, the calls from a number on were refused at once or will be. -/
structure Fenced (first : Nat) (state : Admission controller) : Prop where
  accepting : state.accepting = false
  calls : ∀ call, first ≤ call → ∀ phase, state.calls[call]? = some phase →
    phase = .entering ∨ phase = .rejected ⟨controller.retryAfter⟩

theorem Fenced.advance
    {first : Nat} (fenced : Fenced first state) (found : state.calls[call]? = some before)
    (turned : before = .entering → after = .rejected ⟨controller.retryAfter⟩)
    (open_ : before ≠ .rejected ⟨controller.retryAfter⟩) :
    Fenced first (state.advance call after) := by
  refine ⟨fenced.accepting, fun other late phase stands => ?_⟩
  rw [Admission.advance, getElem?_set] at stands
  split_ifs at stands with same inside
  · subst same
    have entering := (fenced.calls call late before found).resolve_right open_
    cases stands
    exact .inr (turned entering)
  · exact fenced.calls other late phase stands

theorem Fenced.releaseInner
    {first : Nat} (fenced : Fenced first state)
    (lease : AdmissionLease) : Fenced first (state.releaseInner lease).1 := by
  unfold Admission.releaseInner
  split
  · exact ⟨fenced.accepting, fenced.calls⟩
  · exact fenced

/-- A step lets no late call through the fence. -/
theorem fenced_step
    {first : Nat} (fenced : Fenced first state)
    (action : AdmissionStep) : Fenced first (state.step action).1 := by
  have same : ∀ next : Admission controller, next.accepting = state.accepting →
      next.calls = state.calls → Fenced first next := by
    rintro next accepting calls
    exact ⟨accepting.trans fenced.accepting, calls ▸ fenced.calls⟩
  cases action with
  | tryAdmit =>
    refine ⟨fenced.accepting, fun call late phase stands => ?_⟩
    simp only [step, getElem?_append] at stands
    split_ifs at stands
    · exact fenced.calls call late phase stands
    · rw [getElem?_singleton] at stands
      split_ifs at stands
      exact .inl (Option.some.inj stands).symm
  | checkAccepting call =>
    simp only [step, checkAccepting]
    split
    · next found => exact fenced.advance found (by simp [fenced.accepting]) (by simp)
    · exact fenced
  | load call =>
    simp only [step, load]
    split
    · next found => exact fenced.advance found (by simp) (by simp)
    · exact fenced
  | compareExchange call spurious =>
    simp only [step, compareExchange]
    split
    · next seen found =>
      have moved : Fenced first
          { state with active := (exchange seen state.active spurious).1 } :=
        same _ rfl rfl
      exact moved.advance found (by simp) (by simp)
    · exact fenced
  | recheckAccepting call =>
    simp only [step, recheckAccepting, fenced.accepting, Bool.false_eq_true, if_false]
    split
    · next found => exact fenced.advance found (by simp) (by simp)
    · exact fenced
  | rollBack call =>
    simp only [step, rollBack]
    split
    · next found =>
      have moved : Fenced first { state with active := fetchSub state.active } :=
        same _ rfl rfl
      exact moved.advance found (by simp) (by simp)
    · exact fenced
  | acquireElsewhere => exact same _ rfl rfl
  | release index =>
    simp only [step, release]
    split
    · apply Fenced.releaseInner
      exact same _ rfl rfl
    · exact fenced
  | drop index =>
    simp only [step, drop]
    split
    · apply Fenced.releaseInner
      exact same _ rfl rfl
    · exact fenced
  | newGroup => exact same _ rfl rfl
  | push group index reserved =>
    simp only [step, push]
    split
    · split
      · exact same _ rfl rfl
      · apply Fenced.releaseInner
        exact same _ rfl rfl
    · exact fenced
  | releaseAll group =>
    simp only [step, releaseAll]
    split
    · exact same _ rfl rfl
    · exact fenced
  | dropGroup group =>
    simp only [step, dropGroup]
    split
    · exact same _ rfl rfl
    · exact fenced
  | finishDrop index =>
    simp only [step, finishDrop]
    split
    · apply Fenced.releaseInner
      exact same _ rfl rfl
    · exact fenced
  | beginShutdown => exact ⟨rfl, fenced.calls⟩

/-- The calls that begin after the shutdown did are not admitted. -/
theorem fenced_reached
    (controller : AdmissionController) (earlier later : List AdmissionStep) :
    Fenced (reached controller earlier).calls.length
      (reached controller (earlier ++ .beginShutdown :: later)) := by
  generalize split : reached controller earlier = state
  have ends : reached controller (earlier ++ .beginShutdown :: later) =
      Run.after step (state.step .beginShutdown).1 later := by
    rw [← split, reached, reached, Run.after_append, Run.after_cons]
  rw [ends]
  apply Run.invariant (fun reached : Admission controller => Fenced state.calls.length reached)
  · refine ⟨rfl, fun call late phase stands => ?_⟩
    have outside : state.calls[call]? = none := by simpa using late
    cases outside.symm.trans stands
  · intro state action fenced
    exact fenced_step fenced action

/-- What holds at the end of every interleaving. -/
structure Conserved (controller : AdmissionController) (steps : List AdmissionStep) : Prop where
  /-- The counter is the live leases and the calls between increment and return. -/
  active : (reached controller steps).active =
    (reached controller steps).live.length + (reached controller steps).pending
  bounded : (reached controller steps).active ≤ controller.maximum
  /-- No `fetch_sub` finds the counter at zero. -/
  noUnderflow : ∀ earlier action later, steps = earlier ++ action :: later →
    ∀ taken, Run.output step (new controller) earlier action = some taken → 0 < taken.previous
  /-- A lease that is gone took one from the counter once, and no other did. -/
  decremented : ∀ call, (decrements controller steps).count call =
    if (reached controller steps).Issued call ∧ call ∉ (reached controller steps).live
      then 1 else 0
  distinct : (reached controller steps).live.Nodup
  /-- No call that began after the shutdown did returns a lease. -/
  fenced : ∀ earlier later, steps = earlier ++ .beginShutdown :: later →
    ∀ call, (reached controller earlier).calls.length ≤ call →
      ¬(reached controller steps).Issued call
  drained : (reached controller steps).live = [] →
    (∀ phase ∈ (reached controller steps).calls, phase.returned = true) →
    (reached controller steps).active = 0

/-- Calls that have returned hold no count. -/
theorem pending_of_returned (returned : ∀ phase ∈ state.calls, phase.returned = true) :
    state.pending = 0 := by
  rw [pending, countP_eq_zero]
  intro phase member
  have := returned phase member
  cases phase <;> simp_all [AdmitPhase.returned, AdmitPhase.holdsCount]

/-- Admission never exceeds its capacity and never leaks, in whatever order the parties
take their steps. -/
theorem conserved (controller : AdmissionController) (steps : List AdmissionStep) :
    Conserved controller steps where
  active := (counted_reached controller steps).active
  bounded := (counted_reached controller steps).bounded
  noUnderflow := by
    rintro earlier action later - taken found
    have change := change_step (reached controller earlier) action
    exact (counted_change (counted_reached controller earlier) change).2 taken found
  decremented := by
    intro call
    have total := count_decrements_add controller steps call
    have member := count_pos_iff (a := call) (l := (reached controller steps).live)
    by_cases issued : (reached controller steps).Issued call
    · by_cases live : call ∈ (reached controller steps).live
      · have positive := member.mpr live
        simp only [issued, if_true] at total
        simp only [issued, live, not_true, and_false, if_false]
        omega
      · have absent := count_eq_zero.mpr live
        simp only [issued, if_true] at total
        simp only [issued, live, not_false_eq_true, and_true, if_true]
        omega
    · simp only [issued, if_false] at total
      simp only [issued, false_and, if_false]
      omega
  distinct := by
    rw [nodup_iff_count_le_one]
    intro call
    have total := count_decrements_add controller steps call
    split_ifs at total <;> omega
  fenced := by
    rintro earlier later rfl call late issued
    rcases (fenced_reached controller earlier later).calls call late _ issued with
      entering | rejected
    · cases entering
    · cases rejected
  drained := by
    intro gone returned
    rw [(counted_reached controller steps).active, gone, pending_of_returned returned]
    rfl

end Admission
end Runtime
end LiveAISIP
