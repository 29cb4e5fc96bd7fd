import LiveAISIP.Library.Run

/-!
# Journals

A machine refuses some of its inputs.  The journal of a run lists the inputs that
it took, each with its output; what a machine has done is told by its journal alone
where a refused input leaves no trace.
-/

namespace LiveAISIP
namespace Run

/-- The inputs of a run that were taken, with their outputs. -/
def journal
    (taken : ω → Bool) (step : σ → ι → σ × ω) (start : σ) (inputs : List ι) : List (ι × ω) :=
  (history step start inputs).filter fun entry => taken entry.2

/-- The last step is listed when it is taken. -/
theorem journal_concat
    (taken : ω → Bool) (step : σ → ι → σ × ω) (start : σ) (inputs : List ι) (last : ι) :
    journal taken step start (inputs ++ [last]) = journal taken step start inputs ++
        if taken (output step start inputs last) then [(last, output step start inputs last)]
        else [] := by
  rw [journal, history_concat, List.filter_append]
  congr 1
  rw [List.filter_cons, List.filter_nil]

/-- What holds of the empty journal at the start, is kept by every input that is taken
when the journal grows, and by every refusal while it does not, holds of every run. -/
theorem journal_invariant
    {taken : ω → Bool} {step : σ → ι → σ × ω} {start : σ}
    (Invariant : List (ι × ω) → σ → Prop) (initial : Invariant [] start)
    (takes : ∀ entries state input, Invariant entries state → taken (step state input).2 = true →
      Invariant (entries ++ [(input, (step state input).2)]) (step state input).1)
    (refuses : ∀ entries state input, Invariant entries state →
      taken (step state input).2 = false → Invariant entries (step state input).1)
    (inputs : List ι) :
    Invariant (journal taken step start inputs) (after step start inputs) := by
  induction inputs using List.reverseRecOn with
  | nil => exact initial
  | append_singleton inputs last ih =>
    rw [journal_concat, after_append]
    split_ifs with accepted
    · exact takes _ _ last ih accepted
    · rw [List.append_nil]
      exact refuses _ _ last ih (Bool.eq_false_iff.mpr accepted)

end Run
end LiveAISIP
