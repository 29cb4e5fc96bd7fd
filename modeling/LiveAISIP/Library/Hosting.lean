import LiveAISIP.Library.Run

/-!
# Machines hosted by a system

A system hosts machines under names: its operations admit machines, give inputs to
them and remove them.  Where each operation treats each machine lawfully, a machine
that is still hosted has run alone since it was admitted.
-/

namespace LiveAISIP

/-- How the operations of a system treat the machines that it hosts. -/
structure Hosting (σ ο ρ ν τ ι ω : Type*) where
  apply : σ → ο → σ × ρ
  step : τ → ι → τ × ω
  hosted : σ → ν → Option τ
  admitted : σ → ο → ν → Option τ
  input : ν → ο → Option ι

namespace Hosting

variable {σ ο ρ ν τ ι ω : Type*} (hosting : Hosting σ ο ρ ν τ ι ω)

/-- A machine run alone on the inputs that operations have for its name. -/
def alone (name : ν) (machine : τ) (operations : List ο) : τ :=
  Run.after hosting.step machine (operations.filterMap (hosting.input name))

/-- A machine that is hosted after an operation took its input there, or was admitted
there. -/
def Lawful : Prop :=
  ∀ system operation name machine,
    hosting.hosted (hosting.apply system operation).1 name = some machine →
      (∃ before, hosting.hosted system name = some before ∧
        machine = hosting.alone name before [operation]) ∨
      hosting.admitted system operation name = some machine

/-- Every machine that is hosted after a run has run alone, from the start or since it
was admitted. -/
def RunsAlone (system : σ) (operations : List ο) : Prop :=
  ∀ name machine, hosting.hosted (Run.after hosting.apply system operations) name = some machine →
    (∃ first, hosting.hosted system name = some first ∧
      machine = hosting.alone name first operations) ∨
    ∃ earlier operation later first, operations = earlier ++ operation :: later ∧
      hosting.admitted (Run.after hosting.apply system earlier) operation name = some first ∧
      machine = hosting.alone name first later

variable {hosting}

theorem alone_concat (name : ν) (machine : τ) (operations : List ο) (last : ο) :
    hosting.alone name machine (operations ++ [last]) =
      hosting.alone name (hosting.alone name machine operations) [last] := by
  rw [alone, List.filterMap_append, Run.after_append]
  rfl

theorem Lawful.runsAlone (lawful : hosting.Lawful) (system : σ) (operations : List ο) :
    hosting.RunsAlone system operations := by
  induction operations using List.reverseRecOn with
  | nil => exact fun name machine held => .inl ⟨machine, held, rfl⟩
  | append_singleton operations last ih =>
    intro name machine held
    rw [Run.after_append] at held
    rcases lawful _ last name machine held with ⟨before, known, moved⟩ | admitted
    · rcases ih name before known with
        ⟨first, started, ran⟩ | ⟨earlier, operation, later, first, split, admitted, ran⟩
      · exact .inl ⟨first, started, by rw [alone_concat, ← ran, moved]⟩
      · exact .inr ⟨earlier, operation, later ++ [last], first, by simp [split], admitted,
          by rw [alone_concat, ← ran, moved]⟩
    · exact .inr ⟨operations, last, [], machine, rfl, admitted, rfl⟩

end Hosting

end LiveAISIP
