import Mathlib.Data.List.Induction

/-!
# Runs of deterministic machines

A machine consumes one input at a time; each step returns the next state and
an output.  Every point of a run is named by the list of inputs consumed so
far, so a property of a whole run is a property of all of its splits into
earlier inputs, one input, and later inputs.
-/

namespace LiveAISIP
namespace Run

open List

variable {step : σ → ι → σ × ω} {start : σ}

/-- The state reached from `start` after consuming a list of inputs. -/
def after (step : σ → ι → σ × ω) (start : σ) (inputs : List ι) : σ :=
  inputs.foldl (fun state input => (step state input).1) start

/-- The output of the step taken on `input` after the inputs `earlier`. -/
def output
    (step : σ → ι → σ × ω) (start : σ) (earlier : List ι) (input : ι) : ω :=
  (step (after step start earlier) input).2

@[simp] theorem after_nil (step : σ → ι → σ × ω) (start : σ) : after step start [] = start := rfl

@[simp] theorem after_cons
    (step : σ → ι → σ × ω) (start : σ) (input : ι) (inputs : List ι) :
    after step start (input :: inputs) = after step (step start input).1 inputs := rfl

@[simp] theorem after_append
    (step : σ → ι → σ × ω) (start : σ) (first second : List ι) :
    after step start (first ++ second) = after step (after step start first) second := by
  simp [after, foldl_append]

/-- The outputs of a run, in order. -/
def outputs (step : σ → ι → σ × ω) (start : σ) : List ι → List ω
  | [] => []
  | input :: inputs =>
    (step start input).2 :: outputs step (step start input).1 inputs

@[simp] theorem outputs_nil (step : σ → ι → σ × ω) (start : σ) : outputs step start [] = [] := rfl

@[simp] theorem length_outputs
    (step : σ → ι → σ × ω) (start : σ) (inputs : List ι) :
    (outputs step start inputs).length = inputs.length := by
  induction inputs generalizing start with
  | nil => rfl
  | cons input inputs ih => simp [outputs, ih]

/-- The outputs of a run are those of its first part and those of the rest. -/
theorem outputs_append
    (step : σ → ι → σ × ω) (start : σ) (first second : List ι) :
    outputs step start (first ++ second) =
      outputs step start first ++ outputs step (after step start first) second := by
  induction first generalizing start with
  | nil => rfl
  | cons input inputs ih =>
    simp only [cons_append, outputs, ih, after_cons]

/-- The last output of a run is that of its last step. -/
theorem outputs_concat
    (step : σ → ι → σ × ω) (start : σ) (inputs : List ι) (last : ι) :
    outputs step start (inputs ++ [last]) =
      outputs step start inputs ++ [output step start inputs last] := by
  induction inputs generalizing start with
  | nil => rfl
  | cons input inputs ih =>
    simp only [cons_append, outputs, ih]
    rfl

/-- The inputs of a run with their outputs, in order. -/
def history (step : σ → ι → σ × ω) (start : σ) (inputs : List ι) : List (ι × ω) :=
  inputs.zip (outputs step start inputs)

@[simp] theorem history_nil (step : σ → ι → σ × ω) (start : σ) : history step start [] = [] := rfl

/-- The last entry of a history is that of the last step. -/
theorem history_concat
    (step : σ → ι → σ × ω) (start : σ) (inputs : List ι) (last : ι) :
    history step start (inputs ++ [last]) =
      history step start inputs ++ [(last, output step start inputs last)] := by
  rw [history, outputs_concat, zip_append (by simp)]
  rfl

/-- The sum of a weight over the steps of a run. -/
def tally
    (weight : σ → ι → Nat) (step : σ → ι → σ × ω) (start : σ) : List ι → Nat
  | [] => 0
  | input :: inputs =>
    weight start input + tally weight step (step start input).1 inputs

@[simp] theorem tally_nil
    (weight : σ → ι → Nat) (step : σ → ι → σ × ω) (start : σ) :
    tally weight step start [] = 0 := rfl

/-- The tally of a run is that of its first part and that of the rest. -/
theorem tally_append
    (weight : σ → ι → Nat) (step : σ → ι → σ × ω) (start : σ) (first second : List ι) :
    tally weight step start (first ++ second) = tally weight step start first +
        tally weight step (after step start first) second := by
  induction first generalizing start with
  | nil => simp
  | cons input inputs ih =>
    simp only [cons_append, tally, ih, after_cons]
    omega

/-- The last step adds its own weight. -/
theorem tally_concat
    (weight : σ → ι → Nat) (step : σ → ι → σ × ω) (start : σ) (inputs : List ι) (last : ι) :
    tally weight step start (inputs ++ [last]) =
      tally weight step start inputs + weight (after step start inputs) last := by
  simp [tally_append, tally]

/-- A value that is carried along a run. -/
def carry (update : σ → ι → β → β) (step : σ → ι → σ × ω) (start : σ) (carried : β) : List ι → β
  | [] => carried
  | input :: inputs =>
    carry update step (step start input).1 (update start input carried) inputs

/-- An invariant of the state and of what is carried along. -/
theorem carry_invariant {update : σ → ι → β → β} {carried : β}
    (Invariant : σ → β → Prop) (initial : Invariant start carried)
    (preserved : ∀ state carried input, Invariant state carried →
      Invariant (step state input).1 (update state input carried))
    (inputs : List ι) :
    Invariant (after step start inputs) (carry update step start carried inputs) := by
  induction inputs generalizing start carried with
  | nil => exact initial
  | cons input inputs ih =>
    exact ih (preserved start carried input initial)

/-- The first value that an event of a run yields. -/
def first
    (event : σ → ι → Option β) (step : σ → ι → σ × ω) (start : σ) : List ι → Option β
  | [] => none
  | input :: inputs =>
    (event start input).or (first event step (step start input).1 inputs)

@[simp] theorem first_nil
    (event : σ → ι → Option β) (step : σ → ι → σ × ω) (start : σ) :
    first event step start [] = none := rfl

/-- The last step counts only where no earlier one did. -/
theorem first_concat
    (event : σ → ι → Option β) (step : σ → ι → σ × ω) (start : σ) (inputs : List ι) (last : ι) :
    first event step start (inputs ++ [last]) = (first event step start inputs).or
        (event (after step start inputs) last) := by
  induction inputs generalizing start with
  | nil => simp [first]
  | cons input inputs ih =>
    simp only [cons_append, first, ih, after_cons, Option.or_assoc]

/-- A property of every step of a run, read at each split of its inputs. -/
def AllSteps (property : List ι → ι → Prop) (inputs : List ι) : Prop :=
  ∀ earlier input later, inputs = earlier ++ input :: later → property earlier input

@[simp] theorem allSteps_nil (property : List ι → ι → Prop) :
    AllSteps property [] := by
  intro earlier input later split
  simp at split

/-- The steps of a run include those of its first part. -/
theorem AllSteps.of_append
    {property : List ι → ι → Prop} {first second : List ι}
    (all : AllSteps property (first ++ second)) :
    AllSteps property first := by
  intro earlier input later split
  exact all earlier input (later ++ second) (by simp [split])

/-- A run extended by one input has all steps good exactly when the shorter
run has and the last step is good. -/
theorem allSteps_concat
    (property : List ι → ι → Prop) (inputs : List ι) (last : ι) :
    AllSteps property (inputs ++ [last]) ↔ AllSteps property inputs ∧ property inputs last := by
  constructor
  · intro all
    exact ⟨all.of_append, all inputs last [] rfl⟩
  · rintro ⟨prior, final⟩ earlier input later split
    rcases eq_nil_or_concat later with rfl | ⟨shorter, final', rfl⟩
    · obtain ⟨rfl, lastEq⟩ := append_inj' split rfl
      cases lastEq
      exact final
    · have reassociated :
          inputs ++ [last] = (earlier ++ input :: shorter) ++ [final'] := by
        simpa using split
      obtain ⟨inputsEq, -⟩ := append_inj' reassociated rfl
      exact prior earlier input shorter inputsEq

/-- Stepwise equivalent properties hold on the same runs. -/
theorem allSteps_congr
    {first second : List ι → ι → Prop}
    (equivalent : ∀ earlier input, first earlier input ↔ second earlier input) (inputs : List ι) :
    AllSteps first inputs ↔ AllSteps second inputs := by
  simp only [AllSteps, equivalent]

/-- Properties that are equivalent at a step whenever one of them held at all
earlier steps hold on the same runs. -/
theorem allSteps_congr_of_prior
    {first second : List ι → ι → Prop}
    (equivalent : ∀ earlier input, AllSteps first earlier →
      (first earlier input ↔ second earlier input))
    (inputs : List ι) :
    AllSteps first inputs ↔ AllSteps second inputs := by
  induction inputs using reverseRecOn with
  | nil => simp
  | append_singleton earlier input ih =>
    rw [allSteps_concat, allSteps_concat, ← ih]
    exact and_congr_right (equivalent earlier input)

/-- A property of some step of a run, read at one split of its inputs. -/
def SomeStep (property : List ι → ι → Prop) (inputs : List ι) : Prop :=
  ∃ earlier input later, inputs = earlier ++ input :: later ∧ property earlier input

/-- Some step has a property exactly when not every step fails it. -/
theorem someStep_iff_not_allSteps
    (property : List ι → ι → Prop) (inputs : List ι) :
    SomeStep property inputs ↔ ¬AllSteps (fun earlier input => ¬property earlier input) inputs := by
  simp only [SomeStep, AllSteps]
  push Not
  rfl

@[simp] theorem not_someStep_nil (property : List ι → ι → Prop) :
    ¬SomeStep property [] := by
  simp [someStep_iff_not_allSteps]

/-- A run extended by one input has a step of a property exactly when the
shorter run has one or the last step is one. -/
theorem someStep_concat
    (property : List ι → ι → Prop) (inputs : List ι) (last : ι) :
    SomeStep property (inputs ++ [last]) ↔ SomeStep property inputs ∨ property inputs last := by
  simp only [someStep_iff_not_allSteps, allSteps_concat]
  tauto

/-- An invariant that holds at the start and is kept by every step holds
after every run. -/
theorem invariant (Invariant : σ → Prop) (initial : Invariant start)
    (preserved : ∀ state input, Invariant state → Invariant (step state input).1)
    (inputs : List ι) :
    Invariant (after step start inputs) := by
  induction inputs generalizing start with
  | nil => exact initial
  | cons input inputs ih =>
    exact ih (preserved start input initial)

/-- An invariant relating the inputs consumed so far to the state reached,
kept by every step that meets a condition, holds after every run whose steps
all meet the condition. -/
theorem guarded_invariant (Invariant : List ι → σ → Prop)
    {condition : List ι → ι → Prop} (initial : Invariant [] start)
    (preserved : ∀ earlier input, condition earlier input →
      Invariant earlier (after step start earlier) →
      Invariant (earlier ++ [input]) (step (after step start earlier) input).1)
    (inputs : List ι) (met : AllSteps condition inputs) :
    Invariant inputs (after step start inputs) := by
  induction inputs using reverseRecOn with
  | nil => exact initial
  | append_singleton earlier input ih =>
    obtain ⟨earlierMet, inputMet⟩ := (allSteps_concat _ _ _).mp met
    rw [after_append]
    exact preserved earlier input inputMet (ih earlierMet)

/-- An invariant relating the inputs consumed so far to the state reached. -/
theorem history_invariant {Invariant : List ι → σ → Prop}
    (initial : Invariant [] start)
    (preserved : ∀ earlier input, Invariant earlier (after step start earlier) →
      Invariant (earlier ++ [input]) (step (after step start earlier) input).1)
    (inputs : List ι) :
    Invariant inputs (after step start inputs) :=
  guarded_invariant Invariant initial
    (fun earlier input (_ : True) => preserved earlier input) inputs
    (fun _ _ _ _ => trivial)

/-- What every step from an invariant returns, every run returns. -/
theorem forall_mem_outputs (Invariant : σ → Prop) (Good : ω → Prop)
    (preserved : ∀ state input, Invariant state →
      Invariant (step state input).1 ∧ Good (step state input).2)
    (initial : Invariant start)
    (inputs : List ι) :
    ∀ output ∈ outputs step start inputs, Good output := by
  induction inputs generalizing start with
  | nil => simp
  | cons input inputs ih =>
    obtain ⟨kept, good⟩ := preserved start input initial
    simp only [outputs, mem_cons, forall_eq_or_imp]
    exact ⟨good, ih kept⟩

/-- Machines that return the same and stay related return the same on every run. -/
theorem simulation {abstract : τ → ι → τ × ω} (Related : σ → τ → Prop)
    (preserved : ∀ state point input, Related state point →
      (step state input).2 = (abstract point input).2 ∧
        Related (step state input).1 (abstract point input).1)
    {origin : τ}
    (initial : Related start origin)
    (inputs : List ι) :
    outputs step start inputs = outputs abstract origin inputs ∧
      Related (after step start inputs) (after abstract origin inputs) := by
  induction inputs generalizing start origin with
  | nil => exact ⟨rfl, initial⟩
  | cons input inputs ih =>
    obtain ⟨same, related⟩ := preserved start origin input initial
    obtain ⟨rest, ends⟩ := ih related
    exact ⟨by rw [outputs, outputs, same, rest], ends⟩

end Run
end LiveAISIP
