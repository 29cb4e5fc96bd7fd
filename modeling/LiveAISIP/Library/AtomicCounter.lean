import Mathlib.Algebra.Group.Nat.Defs
import Mathlib.Data.Fin.Basic

/-!
# Shared counters

A machine word that many parties add to and take from.  Adding below a limit is a
loop of a load and a compare-exchange; between the two any other party may run.
Taking one away is a single step, and it wraps around at zero.  What a counter stands
for is found by counting the parties in the phases that hold a part of it.
-/

namespace LiveAISIP
namespace AtomicCounter

/-- The largest value of a machine word. -/
def wordMax : Nat := 2 ^ 64 - 1

/-- What one `fetch_sub` of one leaves in the counter. -/
def fetchSub : Nat → Nat
  | 0 => wordMax
  | value + 1 => value

/-- Away from zero, one is taken away. -/
theorem fetchSub_add_one {value : Nat} (positive : 0 < value) :
    fetchSub value + 1 = value := by
  cases value with
  | zero => simp at positive
  | succ value => rfl

/-- Where an increment below a limit stands. -/
inductive Increment (limit : Nat)
  | trying (seen : Fin limit)
  | refused
  | done
  deriving DecidableEq

namespace Increment

/-- The loop looks at a value that it loaded. -/
def look (limit value : Nat) : Increment limit :=
  if below : value < limit then .trying ⟨value, below⟩ else .refused

/-- The loop tries to replace the value that it has seen.  A weak compare-exchange may
fail although the value is still there. -/
def exchange
    {limit : Nat} (seen : Fin limit) (value : Nat) (spurious : Bool) :
    Nat × Increment limit :=
  if seen.val = value ∧ spurious = false then (value + 1, .done)
  else (value, look limit value)

/-- A refusal has seen the counter at its limit. -/
theorem limit_le_of_look {limit value : Nat} (refused : look limit value = .refused) :
    limit ≤ value := by
  unfold look at refused
  split_ifs at refused with below
  omega

theorem look_ne_done (limit value : Nat) : look limit value ≠ .done := by
  unfold look
  split_ifs <;> simp

/-- An attempt adds one below the limit, or leaves the counter and looks again. -/
theorem exchange_cases
    {limit : Nat} (seen : Fin limit) (value : Nat) (spurious : Bool) :
    (value < limit ∧ exchange seen value spurious = (value + 1, .done)) ∨
      exchange seen value spurious = (value, look limit value) := by
  unfold exchange
  split_ifs with same
  · left
    exact ⟨same.1 ▸ seen.isLt, rfl⟩
  · exact .inr rfl

end Increment

theorem ite_eq_toNat (holds : Bool) : (if holds = true then 1 else 0) = holds.toNat := by
  cases holds <;> rfl

/-- A kind that is the disjoint union of two. -/
theorem countP_eq_add
    {all first second : π → Bool}
    (split : ∀ phase, (all phase).toNat = (first phase).toNat + (second phase).toNat)
    (phases : List π) :
    phases.countP all = phases.countP first + phases.countP second := by
  induction phases with
  | nil => rfl
  | cons phase phases ih =>
    simp only [List.countP_cons, ite_eq_toNat, split phase, ih]
    omega

/-- How many parties are in a phase of some kind, after one of them came to another
phase. -/
theorem countP_set_add
    {phases : List π} {party : Nat} {before : π}
    (found : phases[party]? = some before) (after : π) (kind : π → Bool) :
    (phases.set party after).countP kind + (kind before).toNat =
      phases.countP kind + (kind after).toNat := by
  obtain ⟨inside, rfl⟩ := List.getElem?_eq_some_iff.mp found
  have counted : (kind phases[party]).toNat ≤ phases.countP kind := by
    cases holds : kind phases[party]
    · simp
    · exact List.countP_pos_iff.mpr ⟨_, List.getElem_mem inside, holds⟩
  have replaced := List.countP_set (p := kind) (a := after) inside
  rw [ite_eq_toNat, ite_eq_toNat] at replaced
  omega

end AtomicCounter
end LiveAISIP
