import LiveAISIP.Library.Outcome

/-!
# Fallible computations on a state

A computation changes a state and returns a value or an error.  An error ends
it at once and keeps the changes made before, like an early return from a
method that changes its receiver.  Invariants are proved bind by bind.
-/

namespace LiveAISIP

/-- A computation on states `σ` that returns an `α` or an error. -/
def Effect (σ ε α : Type) : Type := σ → σ × Except ε α

namespace Effect

variable {first : Effect σ ε α}

instance : Monad (Effect σ ε) where
  pure value := fun state => (state, .ok value)
  bind first second := fun state =>
    match first state with
    | (next, .error error) => (next, .error error)
    | (next, .ok value) => second value next

theorem pure_apply (value : α) (state : σ) :
    (pure value : Effect σ ε α) state = (state, .ok value) := rfl

theorem bind_apply
    (first : Effect σ ε α) (second : α → Effect σ ε β) (state : σ) :
    (first >>= second) state =
      match first state with
      | (next, .error error) => (next, .error error)
      | (next, .ok value) => second value next := rfl

/-- A sequence whose first part returns goes on with the rest. -/
theorem bind_of_ok {state next : σ} {value : α}
    (returned : first state = (next, .ok value)) (second : α → Effect σ ε β) :
    (first >>= second) state = second value next := by
  rw [bind_apply, returned]

/-- A sequence whose first part fails ends there. -/
theorem bind_of_error {state next : σ} {error : ε}
    (failed : first state = (next, .error error)) (second : α → Effect σ ε β) :
    (first >>= second) state = (next, .error error) := by
  rw [bind_apply, failed]

/-- A sequence returns exactly when both of its parts do. -/
theorem bind_eq_ok {second : α → Effect σ ε β} {state final : σ} {result : β} :
    (first >>= second) state = (final, .ok result) ↔ ∃ next value, first state = (next, .ok value) ∧
        second value next = (final, .ok result) := by
  rw [bind_apply]
  rcases first state with ⟨next, error | value⟩ <;> simp

/-- The order of three parts is what counts. -/
theorem bind_assoc
    (first : Effect σ ε α) (second : α → Effect σ ε β) (third : β → Effect σ ε γ) :
    first >>= second >>= third = first >>= fun value => second value >>= third := by
  funext state
  simp only [bind_apply]
  rcases first state with ⟨next, error | value⟩ <;> rfl

/-- Converting the result changes no state. -/
theorem state_bind_pure
    (first : Effect σ ε α) (convert : α → β) (state : σ) :
    ((first >>= fun value => pure (convert value)) state).1 = (first state).1 := by
  rw [bind_apply]
  rcases first state with ⟨next, error | value⟩
  · rfl
  · rfl

/-- Raise an error. -/
def fail (error : ε) : Effect σ ε α := fun state => (state, .error error)

/-- Read the state. -/
def read (view : σ → α) : Effect σ ε α := fun state => (state, .ok (view state))

/-- Change the state. -/
def modify (change : σ → σ) : Effect σ ε Unit := fun state => (change state, .ok ())

/-- The outcome of a computation that does not depend on the state. -/
def ofExcept (outcome : Except ε α) : Effect σ ε α := fun state => (state, outcome)

@[simp] theorem fail_apply (error : ε) (state : σ) :
    (fail error : Effect σ ε α) state = (state, .error error) := rfl

@[simp] theorem read_apply (view : σ → α) (state : σ) :
    (read view : Effect σ ε α) state = (state, .ok (view state)) := rfl

@[simp] theorem modify_apply (change : σ → σ) (state : σ) :
    (modify change : Effect σ ε Unit) state = (change state, .ok ()) := rfl

/-- A change goes before the rest. -/
theorem modify_bind
    (change : σ → σ) (second : Unit → Effect σ ε β) (state : σ) :
    ((modify change : Effect σ ε Unit) >>= second) state = second () (change state) := rfl

@[simp] theorem ofExcept_apply (outcome : Except ε α) (state : σ) :
    (ofExcept outcome : Effect σ ε α) state = (state, outcome) := rfl

/-- Run a computation on a part of the state. -/
def zoom
    (part : σ → τ) (replace : τ → σ → σ) (inner : Effect τ ε α) : Effect σ ε α := fun state =>
  (replace (inner (part state)).1 state, (inner (part state)).2)

@[simp] theorem zoom_apply
    (part : σ → τ) (replace : τ → σ → σ) (inner : Effect τ ε α) (state : σ) :
    zoom part replace inner state =
      (replace (inner (part state)).1 state, (inner (part state)).2) := rfl

/-- Convert the errors of a computation. -/
def mapError (convert : ε → δ) (inner : Effect σ ε α) : Effect σ δ α := fun state =>
  ((inner state).1, (inner state).2.mapError convert)

@[simp] theorem mapError_apply
    (convert : ε → δ) (inner : Effect σ ε α) (state : σ) :
    mapError convert inner state = ((inner state).1, (inner state).2.mapError convert) := rfl

/-- Run a computation for each item in order, up to the first failure. -/
def each (visit : α → Effect σ ε Unit) : List α → Effect σ ε Unit
  | [] => pure ()
  | item :: items => do
    visit item
    each visit items

/-- The computation keeps an invariant, also when it fails. -/
def Keeps (Invariant : σ → Prop) (run : Effect σ ε α) : Prop :=
  ∀ state, Invariant state → Invariant (run state).1

section Keeps

variable {Invariant : σ → Prop}

theorem keeps_pure (value : α) : Keeps Invariant (pure value : Effect σ ε α) := fun _ holds => holds

theorem keeps_fail (error : ε) : Keeps Invariant (fail error : Effect σ ε α) := fun _ holds => holds

theorem keeps_read (view : σ → α) : Keeps Invariant (read view : Effect σ ε α) :=
  fun _ holds => holds

theorem keeps_ofExcept (outcome : Except ε α) : Keeps Invariant (ofExcept outcome : Effect σ ε α) :=
  fun _ holds => holds

theorem keeps_modify
    {change : σ → σ} (keeps : ∀ state, Invariant state → Invariant (change state)) :
    Keeps Invariant (modify change : Effect σ ε Unit) := keeps

/-- A sequence keeps what both of its parts keep. -/
theorem Keeps.bind
    {first : Effect σ ε α} {second : α → Effect σ ε β} (before : Keeps Invariant first)
    (after : ∀ value, Keeps Invariant (second value)) :
    Keeps Invariant (first >>= second) := by
  intro state holds
  have between := before state holds
  rw [bind_apply]
  rcases returned : first state with ⟨next, error | value⟩
  · rwa [returned] at between
  · rw [returned] at between
    exact after value next between

theorem Keeps.mapError
    {inner : Effect σ ε α} (keeps : Keeps Invariant inner) (convert : ε → δ) :
    Keeps Invariant (mapError convert inner) := keeps

/-- An invariant of the part is kept by a computation on it. -/
theorem keeps_zoom
    {part : σ → τ} {replace : τ → σ → σ} {inner : Effect τ ε α}
    (keeps : ∀ state, Invariant state → Invariant (replace (inner (part state)).1 state)) :
    Keeps Invariant (zoom part replace inner) := keeps

theorem keeps_each
    {visit : α → Effect σ ε Unit} (keeps : ∀ item, Keeps Invariant (visit item)) (items : List α) :
    Keeps Invariant (each visit items) := by
  induction items with
  | nil => exact keeps_pure ()
  | cons item items ih =>
    exact (keeps item).bind fun _ => ih

end Keeps

/-- Every error of the computation is one of those allowed. -/
def RaisesOnly (Allowed : ε → Prop) (run : Effect σ ε α) : Prop :=
  ∀ state error, (run state).2 = .error error → Allowed error

section RaisesOnly

variable {Allowed : ε → Prop}

theorem raisesOnly_pure (value : α) :
    RaisesOnly Allowed (pure value : Effect σ ε α) := by
  intro state error raised
  cases raised

theorem raisesOnly_read (view : σ → α) :
    RaisesOnly Allowed (read view : Effect σ ε α) := by
  intro state error raised
  cases raised

theorem raisesOnly_modify (change : σ → σ) :
    RaisesOnly Allowed (modify change : Effect σ ε Unit) := by
  intro state error raised
  cases raised

theorem raisesOnly_fail {error : ε} (allowed : Allowed error) :
    RaisesOnly Allowed (fail error : Effect σ ε α) := by
  intro state other raised
  cases raised
  exact allowed

/-- Converted errors are allowed where every conversion is. -/
theorem raisesOnly_mapError
    {convert : δ → ε} (allowed : ∀ error, Allowed (convert error)) (inner : Effect σ δ α) :
    RaisesOnly Allowed (mapError convert inner) := by
  intro state error raised
  rw [mapError_apply] at raised
  cases outcome : (inner state).2 with
  | ok value => simp [outcome, Except.mapError] at raised
  | error cause =>
    simp only [outcome, Except.mapError, Except.error.injEq] at raised
    exact raised ▸ allowed cause

/-- A sequence raises the errors of its parts. -/
theorem RaisesOnly.bind
    {first : Effect σ ε α} {second : α → Effect σ ε β} (before : RaisesOnly Allowed first)
    (after : ∀ value, RaisesOnly Allowed (second value)) :
    RaisesOnly Allowed (first >>= second) := by
  intro state error raised
  rw [bind_apply] at raised
  rcases returned : first state with ⟨next, cause | value⟩
  · simp only [returned, Except.error.injEq] at raised
    exact before state error (by rw [returned, raised])
  · simp only [returned] at raised
    exact after value next error raised

end RaisesOnly

section Hinges

open Outcome (Hinges)

variable {Allowed : ε → Prop} {condition : Prop} {state : σ}

/-- A sequence hinges on what both of its parts do. -/
theorem hinges_bind
    {second : α → Effect σ ε β} {rest : Prop} (before : Hinges Allowed condition (first state).2)
    (after : ∀ next value, first state = (next, .ok value) →
      Hinges Allowed rest (second value next).2) :
    Hinges Allowed (condition ∧ rest) ((first >>= second) state).2 := by
  rw [bind_apply]
  rcases returned : first state with ⟨next, error | value⟩ <;> rw [returned] at before
  · exact fun holds => before holds.1
  · have later := after next value returned
    simp only
    cases outcome : (second value next).2 <;> rw [outcome] at later
    · exact fun holds => later holds.2
    · exact ⟨before, later⟩

/-- A step that may fail on its content has to return. -/
theorem hinges_ofExcept
    {outcome : Except ε α} {second : α → Effect σ ε β} {rest : α → Prop}
    (after : ∀ value, outcome = .ok value → Hinges Allowed (rest value) (second value state).2) :
    Hinges Allowed (∃ value, outcome = .ok value ∧ rest value)
      ((ofExcept outcome >>= second) state).2 := by
  cases outcome with
  | error error => exact Outcome.hinges_of_not (by simp) error
  | ok value => exact (after value rfl).congr (by simp)

/-- So has one whose errors are converted. -/
theorem hinges_mapped
    {outcome : Except δ α} {convert : δ → ε} {second : α → Effect σ ε β} {rest : α → Prop}
    (after : ∀ value, outcome = .ok value → Hinges Allowed (rest value) (second value state).2) :
    Hinges Allowed (∃ value, outcome = .ok value ∧ rest value)
      ((ofExcept (outcome.mapError convert) >>= second) state).2 :=
  (hinges_ofExcept fun value returned =>
    after value (Outcome.mapError_eq_ok.mp returned)).congr (by simp only [Outcome.mapError_eq_ok])

/-- A step that only fails as allowed leaves the condition to the rest. -/
theorem hinges_granted
    {outcome : Except ε α} {second : α → Effect σ ε β} {rest : α → Prop}
    (allowed : ∀ error, outcome = .error error → Allowed error)
    (after : ∀ value, outcome = .ok value → Hinges Allowed (rest value) (second value state).2) :
    Hinges Allowed (∀ value, outcome = .ok value → rest value)
      ((ofExcept outcome >>= second) state).2 := by
  cases outcome with
  | error error => exact fun _ => allowed error rfl
  | ok value => exact (after value rfl).congr (by simp)

end Hinges

end Effect
end LiveAISIP
