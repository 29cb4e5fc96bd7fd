import LiveAISIP.Library.Run

/-!
# Views that other inputs do not touch

A part of the state of a machine that some inputs do not concern.  When those leave
it as it is, and the others change it by what it was before, the part after a run
is the part after the inputs that concern it.
-/

namespace LiveAISIP
namespace Run

/-- The inputs that do not concern a view leave it as it is, and from states that an
invariant allows the others change it by what it was before. -/
structure Unwinds (step : σ → ι → σ × ω) (Invariant : σ → Prop) (concerns : ι → Bool)
    (view : σ → β) : Prop where
  keeps : ∀ state input, Invariant state → Invariant (step state input).1
  respects : ∀ state input, Invariant state → concerns input = false →
    view (step state input).1 = view state
  consistent : ∀ first second input, Invariant first → Invariant second →
    view first = view second → view (step first input).1 = view (step second input).1

/-- From states with one view, a run and its part that concerns the view reach the same
view. -/
theorem Unwinds.view_after
    {step : σ → ι → σ × ω} {Invariant : σ → Prop} {concerns : ι → Bool} {view : σ → β}
    (unwinds : Unwinds step Invariant concerns view) {first second : σ}
    (initial : Invariant first) (other : Invariant second)
    (same : view first = view second) (inputs : List ι) :
    view (after step first inputs) = view (after step second (inputs.filter concerns)) := by
  induction inputs generalizing first second with
  | nil => exact same
  | cons input inputs ih =>
    rw [after_cons]
    cases concerned : concerns input with
    | false =>
      rw [List.filter_cons_of_neg (by simp [concerned])]
      refine ih (unwinds.keeps _ _ initial) other ?_
      rw [unwinds.respects _ _ initial concerned, same]
    | true =>
      rw [List.filter_cons_of_pos concerned, after_cons]
      exact ih (unwinds.keeps _ _ initial) (unwinds.keeps _ _ other)
        (unwinds.consistent _ _ _ initial other same)

end Run
end LiveAISIP
