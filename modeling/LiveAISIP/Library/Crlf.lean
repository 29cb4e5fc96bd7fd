import Mathlib.Data.List.Basic

/-!
# Lines ended by CRLF

A line is clean when it holds neither CR nor LF.  Every input either begins
with a clean line and its CRLF, stops before the CRLF of its first line is
complete, or breaks the line syntax; how it continues does not change the
first and the last of these.
-/

namespace LiveAISIP
namespace Crlf

open List

variable {input line rest longer : List UInt8}

/-- Carriage return. -/
def cr : UInt8 := 13

/-- Line feed. -/
def lf : UInt8 := 10

theorem cr_ne_lf : cr ≠ lf := by decide

/-- No byte of the line is CR or LF. -/
def Clean (line : List UInt8) : Prop := ∀ byte ∈ line, byte ≠ cr ∧ byte ≠ lf

instance (line : List UInt8) : Decidable (Clean line) := decidableBAll _ line

@[simp] theorem clean_nil : Clean [] := by simp [Clean]

@[simp] theorem clean_cons (byte : UInt8) (line : List UInt8) :
    Clean (byte :: line) ↔ (byte ≠ cr ∧ byte ≠ lf) ∧ Clean line := by
  simp [Clean]

@[simp] theorem clean_append (first second : List UInt8) :
    Clean (first ++ second) ↔ Clean first ∧ Clean second :=
  forall_mem_append

/-- The input begins with a line and its CRLF. -/
structure Begins (input line rest : List UInt8) : Prop where
  clean : Clean line
  split : input = line ++ cr :: lf :: rest

/-- The input stops before the CRLF of its first line is complete. -/
structure Pending (input line : List UInt8) : Prop where
  clean : Clean line
  stops : input = line ∨ input = line ++ [cr]

/-- The first CR or LF of the input does not begin a CRLF. -/
inductive Broken : List UInt8 → Prop
  | bareLf {line rest : List UInt8} (clean : Clean line) : Broken (line ++ lf :: rest)
  | bareCr {line rest : List UInt8} {byte : UInt8} (clean : Clean line)
      (other : byte ≠ lf) : Broken (line ++ cr :: byte :: rest)

/-- The first byte either begins the CRLF or belongs to the line. -/
theorem begins_cons_iff (byte : UInt8) (input line rest : List UInt8) :
    Begins (byte :: input) line rest ↔ (line = [] ∧ byte = cr ∧ input = lf :: rest) ∨
        ∃ tail, line = byte :: tail ∧ (byte ≠ cr ∧ byte ≠ lf) ∧ Begins input tail rest := by
  constructor
  · rintro ⟨clean, split⟩
    cases line with
    | nil =>
      obtain ⟨rfl, rfl⟩ := List.cons.inj split
      exact .inl ⟨rfl, rfl, rfl⟩
    | cons first tail =>
      obtain ⟨rfl, later⟩ := List.cons.inj split
      obtain ⟨plain, clean⟩ := (clean_cons byte tail).mp clean
      exact .inr ⟨tail, rfl, plain, clean, later⟩
  · rintro (⟨rfl, rfl, rfl⟩ | ⟨tail, rfl, plain, begins⟩)
    · exact ⟨clean_nil, rfl⟩
    · refine ⟨(clean_cons byte tail).mpr ⟨plain, begins.clean⟩, ?_⟩
      simp [begins.split]

/-- Every input begins with a line, is pending or is broken. -/
theorem classify (input : List UInt8) :
    (∃ line rest, Begins input line rest) ∨ (∃ line, Pending input line) ∨ Broken input := by
  induction input with
  | nil => exact .inr (.inl ⟨[], clean_nil, .inl rfl⟩)
  | cons byte input ih =>
    by_cases isCr : byte = cr
    · subst isCr
      cases input with
      | nil => exact .inr (.inl ⟨[], clean_nil, .inr rfl⟩)
      | cons next input =>
        by_cases isLf : next = lf
        · subst isLf
          exact .inl ⟨[], input, clean_nil, rfl⟩
        · exact .inr (.inr (.bareCr clean_nil isLf))
    · by_cases isLf : byte = lf
      · subst isLf
        exact .inr (.inr (.bareLf clean_nil))
      · have clean {line : List UInt8} (clean : Clean line) :
            Clean (byte :: line) := (clean_cons byte line).mpr ⟨⟨isCr, isLf⟩, clean⟩
        rcases ih with ⟨line, rest, begins⟩ | ⟨line, pending⟩ | broken
        · refine .inl ⟨byte :: line, rest, clean begins.clean, ?_⟩
          simp [begins.split]
        · refine .inr (.inl ⟨byte :: line, clean pending.clean, ?_⟩)
          simpa using pending.stops
        · refine .inr (.inr ?_)
          cases broken with
          | bareLf lineClean => exact .bareLf (clean lineClean)
          | bareCr lineClean other => exact .bareCr (clean lineClean) other

/-- A property of every input follows line by line. -/
theorem lineInduction
    {motive : List UInt8 → Prop} (pending : ∀ input line, Pending input line → motive input)
    (broken : ∀ input, Broken input → motive input)
    (begins : ∀ input line rest, Begins input line rest → motive rest → motive input)
    (input : List UInt8) : motive input := by
  rcases classify input with ⟨line, rest, first⟩ | ⟨line, stops⟩ | breaks
  · exact begins input line rest first
      (lineInduction pending broken begins rest)
  · exact pending input line stops
  · exact broken input breaks
termination_by input.length
decreasing_by
  rw [first.split]
  simp only [length_append, length_cons]
  omega

theorem Begins.append (begins : Begins input line rest) (more : List UInt8) :
    Begins (input ++ more) line (rest ++ more) :=
  ⟨begins.clean, by simp [begins.split]⟩

theorem Broken.append (broken : Broken input) (more : List UInt8) :
    Broken (input ++ more) := by
  cases broken with
  | bareLf clean =>
    rw [append_assoc]
    exact .bareLf clean
  | bareCr clean other =>
    rw [append_assoc]
    exact .bareCr clean other

/-- A clean beginning lies within the first line. -/
theorem exists_append_of_clean
    {tail : List UInt8} (clean : Clean line) (split : line ++ tail = longer ++ cr :: rest) :
    ∃ more, longer = line ++ more ∧ tail = more ++ cr :: rest := by
  rcases append_eq_append_iff.mp split with ⟨more, longerEq, tailEq⟩ | ⟨more, lineEq, restEq⟩
  · exact ⟨more, longerEq, tailEq⟩
  · cases more with
    | nil =>
      refine ⟨[], by simpa using lineEq.symm, ?_⟩
      simpa using restEq.symm
    | cons byte more =>
      obtain ⟨rfl, -⟩ := List.cons.inj restEq
      have member : cr ∈ line := by simp [lineEq]
      exact absurd rfl (clean cr member).1

/-- The first line of an input is unique. -/
theorem Begins.unique
    {line' rest' : List UInt8} (first : Begins input line rest)
    (second : Begins input line' rest') :
    line = line' ∧ rest = rest' := by
  obtain ⟨more, lineEq, tailEq⟩ :=
    exists_append_of_clean first.clean (first.split.symm.trans second.split)
  cases more with
  | nil =>
    refine ⟨by simpa using lineEq.symm, ?_⟩
    simpa using tailEq
  | cons byte more =>
    obtain ⟨rfl, -⟩ := List.cons.inj tailEq
    have member : cr ∈ line' := by simp [lineEq]
    exact absurd rfl (second.clean cr member).1

/-- The first line of a continued input is at least as long as what was
pending. -/
theorem Pending.length_le
    {more : List UInt8} (pending : Pending input line)
    (begins : Begins (input ++ more) longer rest) :
    line.length ≤ longer.length := by
  have split := begins.split
  have within : ∃ tail, line ++ tail = longer ++ cr :: lf :: rest := by
    rcases pending.stops with rfl | rfl
    · exact ⟨more, split⟩
    · exact ⟨cr :: more, by simpa using split⟩
  obtain ⟨tail, split⟩ := within
  obtain ⟨extra, rfl, -⟩ := exists_append_of_clean pending.clean split
  simp

/-- An input cut between CR and LF can only continue with LF. -/
theorem Begins.of_cut
    {more : List UInt8} (clean : Clean line)
    (begins : Begins ((line ++ [cr]) ++ more) longer rest) :
    longer = line ∧ more = lf :: rest := by
  have split : line ++ cr :: more = longer ++ cr :: lf :: rest := by
    simpa using begins.split
  obtain ⟨extra, longerEq, tailEq⟩ := exists_append_of_clean clean split
  cases extra with
  | nil =>
    refine ⟨by simpa using longerEq, ?_⟩
    simpa using tailEq
  | cons byte extra =>
    obtain ⟨rfl, -⟩ := List.cons.inj tailEq
    have member : cr ∈ longer := by simp [longerEq]
    exact absurd rfl (begins.clean cr member).1

/-- The lines of a list, each with its CRLF. -/
def unlines (lines : List (List UInt8)) : List UInt8 := lines.flatMap fun line => line ++ [cr, lf]

@[simp] theorem unlines_nil : unlines [] = [] := rfl

@[simp] theorem unlines_cons (line : List UInt8) (lines : List (List UInt8)) :
    unlines (line :: lines) = line ++ cr :: lf :: unlines lines := by
  simp [unlines]

theorem length_unlines_cons (line : List UInt8) (lines : List (List UInt8)) :
    (unlines (line :: lines)).length = line.length + 2 + (unlines lines).length := by
  simp only [unlines_cons, length_append, length_cons]
  omega

@[simp] theorem unlines_append (first second : List (List UInt8)) :
    unlines (first ++ second) = unlines first ++ unlines second := by
  simp [unlines]

end Crlf
end LiveAISIP
