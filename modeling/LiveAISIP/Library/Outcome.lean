import Mathlib.Data.List.Basic

/-!
# Fallible computations

Postconditions of computations in `Except`: what holds of a returned value
and what holds of an error.  A computation that is a sequence of binds is
verified bind by bind.
-/

namespace LiveAISIP
namespace Outcome

variable {outcome : Except ε α} {condition : Prop}

/-- The value that is returned, or the error that is raised, satisfies its
postcondition. -/
def Meets
    (raises : ε → Prop) (returns : α → Prop) : Except ε α → Prop
  | .ok value => returns value
  | .error error => raises error

variable {raises : ε → Prop} {returns : α → Prop}

@[simp] theorem meets_ok (value : α) : Meets raises returns (.ok value) ↔ returns value := .rfl

@[simp] theorem meets_error (error : ε) :
    Meets raises returns (.error error : Except ε α) ↔ raises error := .rfl

@[simp] theorem meets_pure (value : α) :
    Meets raises returns (pure value : Except ε α) ↔ returns value := .rfl

/-- A sequence meets a postcondition when its first part establishes what the
rest needs. -/
theorem Meets.bind
    {between : α → Prop} {final : β → Prop} {first : Except ε α}
    {second : α → Except ε β} (before : Meets raises between first)
    (after : ∀ value, between value → Meets raises final (second value)) :
    Meets raises final (first >>= second) := by
  cases first with
  | error error => exact before
  | ok value => exact after value before

/-- A postcondition may be weakened. -/
theorem Meets.mono
    {weaker : α → Prop} (meets : Meets raises returns outcome)
    (weakens : ∀ value, returns value → weaker value) :
    Meets raises weaker outcome := by
  cases outcome with
  | error error => exact meets
  | ok value => exact weakens value meets

/-- The computation returns only where a condition holds, and where it holds raises
only allowed errors. -/
def Hinges (Allowed : ε → Prop) (condition : Prop) : Except ε α → Prop :=
  Meets (fun error => condition → Allowed error) fun _ => condition

theorem Hinges.congr
    {Allowed : ε → Prop} {other : Prop} (hinges : Hinges Allowed condition outcome)
    (same : condition ↔ other) :
    Hinges Allowed other outcome := by
  rwa [← propext same]

theorem Hinges.mono
    {Allowed More : ε → Prop} (hinges : Hinges Allowed condition outcome)
    (allows : ∀ error, Allowed error → More error) :
    Hinges More condition outcome := by
  cases outcome with
  | error error => exact fun holds => allows error (hinges holds)
  | ok value => exact hinges

/-- A computation without a content to fail on raises only allowed errors. -/
theorem Hinges.of_raises
    {Allowed : ε → Prop} (holds : condition)
    (allowed : ∀ error, outcome = .error error → Allowed error) :
    Hinges Allowed condition outcome := by
  cases outcome with
  | error error => exact fun _ => allowed error rfl
  | ok value => exact holds

/-- A computation that fails hinges on a condition that does not hold. -/
theorem hinges_of_not
    {Allowed : ε → Prop} (fails : ¬condition) (error : ε) :
    Hinges Allowed condition (.error error : Except ε α) := fun holds => absurd holds fails

/-- A sequence returns exactly when both of its parts do. -/
theorem bind_eq_ok
    {first : Except ε α} {second : α → Except ε β} {result : β} :
    first >>= second = .ok result ↔ ∃ value, first = .ok value ∧ second value = .ok result := by
  cases first with
  | error error => simp [Bind.bind, Except.bind]
  | ok value => simp [Bind.bind, Except.bind]

theorem exists_ok (returned : outcome.isOk = true) :
    ∃ value, outcome = .ok value := by
  cases outcome with
  | ok value => exact ⟨value, rfl⟩
  | error error => cases returned

@[simp] theorem ok_bind (value : α) (second : α → Except ε β) :
    (.ok value : Except ε α) >>= second = second value := rfl

@[simp] theorem error_bind (error : ε) (second : α → Except ε β) :
    (.error error : Except ε α) >>= second = .error error := rfl

@[simp] theorem mapError_eq_ok {convert : ε → δ} {value : α} :
    outcome.mapError convert = .ok value ↔ outcome = .ok value := by
  cases outcome <;> simp [Except.mapError]

/-- A converted value is returned where the value is. -/
theorem map_eq_ok {convert : α → β} {value : β} : outcome.map convert = .ok value ↔
      ∃ found, outcome = .ok found ∧ convert found = value := by
  cases outcome <;> simp [Except.map]

/-- A converted error is accounted for where the conversion is. -/
theorem meets_mapError
    {raises : δ → Prop} (convert : ε → δ)
    (raised : ∀ error, raises (convert error)) (outcome : Except ε α) :
    Meets raises (fun value => outcome = .ok value) (outcome.mapError convert) := by
  cases outcome with
  | error error => exact raised error
  | ok value => rfl

/-- Go on when a condition holds, and raise an error when it does not. -/
def ensure (condition : Prop) [Decidable condition] (error : ε) : Except ε Unit :=
  if condition then .ok () else .error error

@[simp] theorem ensure_eq_ok [Decidable condition] {error : ε} {value : Unit} :
    ensure condition error = .ok value ↔ condition := by
  unfold ensure
  split_ifs <;> simp [*]

theorem ensure_of [Decidable condition]
    (holds : condition) (error : ε) :
    ensure condition error = .ok () := if_pos holds

/-- A checked branch returns only where its condition holds. -/
theorem returned_of_dite [Decidable condition] {branch : condition → Except ε α}
    {error : ε} {value : α}
    (returned : (if holds : condition then branch holds else .error error) = .ok value) :
    ∃ holds, branch holds = .ok value := by
  by_cases holds : condition
  · rw [dif_pos holds] at returned
    exact ⟨holds, returned⟩
  · rw [dif_neg holds] at returned
    cases returned

/-- A refusal and what follows it return exactly where the refusal does not apply. -/
theorem refusal_eq_ok [Decidable condition] {error : ε} {next : Except ε α} {value : α} :
    (if condition then .error error else next) = .ok value ↔ ¬condition ∧ next = .ok value := by
  split_ifs <;> simp [*]

/-- What follows a refusal returns only where the refusal does not apply. -/
theorem returned_of_refusal [Decidable condition] {error : ε} {next : Except ε α} {value : α}
    (returned : (if condition then .error error else next) = .ok value) :
    next = .ok value := by
  by_cases holds : condition
  · rw [if_pos holds] at returned
    cases returned
  · rwa [if_neg holds] at returned

end Outcome
end LiveAISIP
