import LiveAISIP.Sip.CoreHeaders

/-!
# Logical field values

`sip/validation/headers.rs` unfolds a field value in two passes: one counts what the other
writes.  Both replace each run of linear white space that holds a fold by one space, and
leave all else as it is.
-/

namespace LiveAISIP
namespace Sip
namespace Headers

open Ascii Outcome Quoted
open List ValueScan

variable {run : Bytes} {scan : ValueScan}

/-- A byte of linear white space. -/
def isLws (byte : UInt8) : Bool := isWsp byte || byte == 13 || byte == 10

/-- What a run of linear white space stands for. -/
def closeRun (run : Bytes) : Bytes := if 13 ∈ run then [32] else run

/-- The value after a run of linear white space, with each run that holds a fold as one
space. -/
def collapseFrom (run : Bytes) : Bytes → Bytes
  | [] => closeRun run
  | byte :: rest =>
    if isLws byte then collapseFrom (run ++ [byte]) rest
    else closeRun run ++ byte :: collapseFrom [] rest

/-- The value with each run of linear white space that holds a fold as one space. -/
def collapseFolds (input : Bytes) : Bytes := collapseFrom [] input

@[simp] theorem closeRun_nil : closeRun [] = [] := rfl

theorem closeRun_of_mem (folded : 13 ∈ run) : closeRun run = [32] := if_pos folded

theorem closeRun_of_not_mem (plain : 13 ∉ run) : closeRun run = run := if_neg plain

/-- Text that does not end in space stays when the space after it goes. -/
theorem rdropWhile_append_wsp
    {front space : Bytes} (solid : ∀ byte ∈ front.getLast?, isWsp byte = false)
    (spaced : ∀ byte ∈ space, isWsp byte = true) :
    (front ++ space).rdropWhile isWsp = front := by
  rw [rdropWhile, reverse_append, dropWhile_append_of_pos (by simpa using spaced)]
  cases reversed : front.reverse with
  | nil => simpa using reversed
  | cons byte rest =>
    have last : front.getLast? = some byte := by
      rw [← head?_reverse, reversed]
      rfl
    rw [dropWhile_cons_of_neg (by simp [solid byte last]), ← reversed, reverse_reverse]

theorem isFieldValueByte_of_isWsp {byte : UInt8} (wsp : isWsp byte = true) :
    isFieldValueByte byte = true := by
  rw [isWsp, Bool.or_eq_true, beq_iff_eq, beq_iff_eq] at wsp
  obtain rfl | rfl := wsp
  · decide
  · decide

/-- Space after text that does not end in it is not leading space. -/
theorem takeWhile_append_of_solid
    {front : Bytes} (nonempty : front ≠ [])
    (solid : ∀ byte ∈ front.getLast?, isWsp byte = false) (rest : Bytes) :
    (front ++ rest).takeWhile isWsp = front.takeWhile isWsp := by
  have last := getLast?_eq_some_getLast nonempty
  rw [takeWhile_append, if_neg]
  intro whole
  have same : front.takeWhile isWsp = front := ( takeWhile_prefix isWsp).eq_of_length whole
  have wsp : isWsp (front.getLast nonempty) = true := by
    apply mem_takeWhile_imp (l := front)
    rw [same]
    exact getLast_mem nonempty
  rw [solid _ last] at wsp
  cases wsp

/-- What was written so far, the run that it ends with, and the counts of both. -/
structure Scanned (front run : Bytes) (scan : ValueScan) : Prop where
  solid : ∀ byte ∈ front.getLast?, isWsp byte = false
  spaced : ∀ byte ∈ closeRun run, isWsp byte = true
  written : scan.outputLength = (front ++ closeRun run).length
  trailing : scan.trailingWhitespace = (closeRun run).length
  leading : scan.leadingWhitespace =
    if front = [] then (closeRun run).length else (front.takeWhile isWsp).length
  saw : scan.sawNonWhitespace = true ↔ front ≠ []
  kept : ∀ byte ∈ front, isFieldValueByte byte = true

namespace Scanned

variable {front run : Bytes} {scan : ValueScan}

theorem initial : Scanned [] [] ⟨0, 0, 0, false, 0⟩ where
  solid := fun byte member => nomatch member
  spaced := fun byte member => nomatch member
  written := rfl
  trailing := rfl
  leading := rfl
  saw := by simp
  kept := fun byte member => nomatch member

/-- A fold ends the run before it as one space. -/
theorem fold (scanned : Scanned front run scan) :
    Scanned front (run ++ [13] ++ [10]) scan.fold where
  solid := scanned.solid
  spaced := by
    rw [closeRun_of_mem (by simp)]
    intro byte member
    rw [mem_singleton.mp member]
    rfl
  written := by
    have written := scanned.written
    rw [length_append, ← scanned.trailing] at written
    rw [closeRun_of_mem (by simp), length_append, length_singleton,
      ValueScan.fold, written, Nat.add_sub_cancel]
  trailing := by
    rw [closeRun_of_mem (by simp)]
    rfl
  leading := by
    rw [closeRun_of_mem (by simp), ValueScan.fold, scanned.leading]
    by_cases empty : front = []
    · have unseen : ¬scan.sawNonWhitespace = true := fun seen => scanned.saw.mp seen empty
      simp [empty, unseen]
    · simp [empty, scanned.saw.mpr empty]
  saw := scanned.saw
  kept := scanned.kept

/-- White space after a fold is skipped. -/
theorem skip (scanned : Scanned front run scan)
    (folded : 13 ∈ run) (byte : UInt8) : Scanned front (run ++ [byte]) scan := by
  have same : closeRun (run ++ [byte]) = closeRun run := by
    rw [closeRun_of_mem folded, closeRun_of_mem (mem_append_left _ folded)]
  exact ⟨scanned.solid, same ▸ scanned.spaced, same ▸ scanned.written, same ▸ scanned.trailing,
    same ▸ scanned.leading, scanned.saw, scanned.kept⟩

/-- Other white space is written. -/
theorem push_wsp (scanned : Scanned front run scan)
    (plain : 13 ∉ run) {byte : UInt8} (wsp : isWsp byte = true) :
    Scanned front (run ++ [byte]) (scan.push byte) := by
  have solid : byte ≠ 13 := by
    rintro rfl
    exact absurd wsp (by decide)
  have longer : closeRun (run ++ [byte]) = closeRun run ++ [byte] := by
    rw [closeRun_of_not_mem plain, closeRun_of_not_mem (by simp [plain, solid.symm])]
  rw [push, if_pos wsp]
  refine ⟨scanned.solid, ?_, ?_, ?_, ?_, scanned.saw, scanned.kept⟩
  · intro other member
    rw [longer, mem_append, mem_singleton] at member
    obtain member | rfl := member
    · exact scanned.spaced other member
    · exact wsp
  · rw [longer, ← append_assoc, length_append, ← scanned.written]
    rfl
  · rw [longer, length_append, ← scanned.trailing]
    rfl
  · rw [longer, scanned.leading]
    by_cases empty : front = []
    · have unseen : ¬scan.sawNonWhitespace = true := fun seen => scanned.saw.mp seen empty
      simp [empty, unseen]
    · simp [empty, scanned.saw.mpr empty]

/-- Any other byte is written after the run. -/
theorem push_solid (scanned : Scanned front run scan)
    {byte : UInt8} (solid : isWsp byte = false) (field : isFieldValueByte byte = true) :
    Scanned (front ++ closeRun run ++ [byte]) [] (scan.push byte) := by
  rw [push, if_neg (by simp [solid])]
  refine ⟨?_, by simp, ?_, rfl, ?_, by simp, ?_⟩
  · intro other member
    rw [getLast?_concat] at member
    cases member
    exact solid
  · rw [closeRun_nil, append_nil, length_append, ← scanned.written]
    rfl
  · rw [if_neg (by simp), scanned.leading, append_assoc]
    by_cases empty : front = []
    · -- the first solid byte ends the leading white space
      rw [if_pos empty, empty, nil_append,
        takeWhile_append_of_pos scanned.spaced, takeWhile_cons_of_neg (by simp [solid]),
        append_nil]
    · rw [if_neg empty, takeWhile_append_of_solid empty scanned.solid]
  · intro other member
    rw [mem_append, mem_append, mem_singleton] at member
    obtain (member | member) | rfl := member
    · exact scanned.kept other member
    · have wsp := scanned.spaced other member
      exact isFieldValueByte_of_isWsp wsp
    · exact field

end Scanned

theorem ne_of_isWsp {byte : UInt8} (wsp : isWsp byte = true) : byte ≠ 13 := by
  rintro rfl
  exact absurd wsp (by decide)

@[simp] theorem ValueScan.folds_push (scan : ValueScan) (byte : UInt8) :
    (scan.push byte).folds = scan.folds := by
  rw [push]
  split_ifs <;> rfl

/-- Both passes walk the same way, and collapse the runs that hold a fold. -/
theorem scan_unfold
    {final : ValueScan} {index : Nat} {skipping : Bool} {rest front : Bytes}
    (scanned : Scanned front run scan) (skips : skipping = true ↔ 13 ∈ run)
    (accepted : scanValue scan index skipping rest = .ok final) :
    ∃ before after,
      unfoldValue (front ++ closeRun run) index skipping rest = .ok (before ++ closeRun after) ∧
        front ++ collapseFrom run rest = before ++ closeRun after ∧
        Scanned before after final ∧
        final.folds = scan.folds + rest.count 13 := by
  fun_induction scanValue scan index skipping rest generalizing front run with
  | case1 scan index skipping =>
    cases accepted
    exact ⟨front, run, by rw [unfoldValue], rfl, scanned, rfl⟩
  | case2 scan index skipping byte rest skipped ih =>
    obtain ⟨skip, wsp⟩ := Bool.and_eq_true _ _ ▸ skipped
    have folded : 13 ∈ run := skips.mp skip
    have inside : 13 ∈ run ++ [byte] := mem_append_left _ folded
    obtain ⟨before, after, written, collapsed, counted, folds⟩ :=
      ih (scanned.skip folded byte) (iff_of_true rfl inside) accepted
    refine ⟨before, after, ?_, ?_, counted, ?_⟩
    · rw [unfoldValue.eq_def]
      dsimp only
      rw [if_pos skipped, ← written, closeRun_of_mem folded, closeRun_of_mem inside]
    · rw [collapseFrom, if_pos (by simp [isLws, wsp]), collapsed]
    · rw [folds, count_cons_of_ne (ne_of_isWsp wsp)]
  | case7 scan index skipping next rest same spaced few unskipped ih =>
    rw [ne_eq, not_not] at same
    subst same
    obtain ⟨before, after, written, collapsed, counted, folds⟩ :=
      ih scanned.fold (iff_of_true rfl (by simp)) accepted
    refine ⟨before, after, ?_, ?_, counted, ?_⟩
    · rw [unfoldValue.eq_def]
      dsimp only
      rw [if_neg unskipped, if_pos rfl, if_neg (not_not.mpr rfl), if_neg spaced,
        rdropWhile_append_wsp scanned.solid scanned.spaced, ← written, closeRun_of_mem (by simp)]
    · rw [collapseFrom, if_pos (by decide), collapseFrom, if_pos (by decide), collapsed]
    · have more : scan.fold.folds = scan.folds + 1 := rfl
      rw [folds, more, count_cons_self, count_cons_of_ne (by decide)]
      omega
  | case10 scan index skipping byte rest unskipped noReturn noFeed field ih =>
    rw [not_not] at field
    by_cases wsp : isWsp byte = true
    · -- white space that does not follow a fold
      have plain : 13 ∉ run := fun folded => unskipped (by simp [wsp, skips.mpr folded])
      obtain ⟨before, after, written, collapsed, counted, folds⟩ :=
        ih (scanned.push_wsp plain wsp)
          (iff_of_false Bool.false_ne_true (by simp [plain, Ne.symm noReturn])) accepted
      refine ⟨before, after, ?_, ?_, counted, ?_⟩
      · rw [unfoldValue.eq_def]
        dsimp only
        rw [if_neg unskipped, if_neg noReturn, if_neg noFeed,
          if_neg (not_not.mpr field), ← written, closeRun_of_not_mem plain,
          closeRun_of_not_mem (by simp [plain, Ne.symm noReturn]), append_assoc]
      · rw [collapseFrom, if_pos (by simp [isLws, wsp]), collapsed]
      · rw [folds, folds_push, count_cons_of_ne noReturn]
    · rw [Bool.not_eq_true] at wsp
      obtain ⟨before, after, written, collapsed, counted, folds⟩ :=
        ih (scanned.push_solid wsp field) (iff_of_false Bool.false_ne_true not_mem_nil) accepted
      refine ⟨before, after, ?_, ?_, counted, ?_⟩
      · rw [unfoldValue.eq_def]
        dsimp only
        rw [if_neg unskipped, if_neg noReturn, if_neg noFeed,
          if_neg (not_not.mpr field), ← written, closeRun_nil, append_nil]
      · rw [collapseFrom, if_neg (by simp [isLws, wsp, noReturn, noFeed]), ← collapsed]
        simp
      · rw [folds, folds_push, count_cons_of_ne noReturn]
  | _ => cases accepted

theorem length_closeRun_le (run : Bytes) : (closeRun run).length ≤ run.length := by
  rw [closeRun]
  split_ifs with folded
  · exact length_pos_of_mem folded
  · exact le_refl _

theorem length_collapseFrom_le (run rest : Bytes) :
    (collapseFrom run rest).length ≤ run.length + rest.length := by
  induction rest generalizing run with
  | nil => exact length_closeRun_le run
  | cons byte rest ih =>
    rw [collapseFrom]
    split_ifs with lws
    · have shorter := ih (run ++ [byte])
      rw [length_append] at shorter
      simp only [length_cons, length_nil] at shorter ⊢
      omega
    · have closed := length_closeRun_le run
      have shorter := ih []
      simp only [length_append, length_cons, length_nil] at shorter ⊢
      omega

/-- Without a fold nothing is replaced. -/
theorem collapseFrom_of_not_mem
    {rest : Bytes} (plainRun : 13 ∉ run) (plain : 13 ∉ rest) :
    collapseFrom run rest = run ++ rest := by
  induction rest generalizing run with
  | nil => rw [collapseFrom, closeRun_of_not_mem plainRun, append_nil]
  | cons byte rest ih =>
    rw [mem_cons, not_or] at plain
    rw [collapseFrom]
    split_ifs with lws
    · rw [ih (by simp [plainRun, plain.1]) plain.2, append_assoc]
      rfl
    · rw [closeRun_of_not_mem plainRun, ih not_mem_nil plain.2]
      rfl

/-- What an accepted analysis says of the collapsed value. -/
theorem scanned_of_analyze
    {input : Bytes} {analysis : ValueScan} (accepted : analyzeLogicalValue input = .ok analysis) :
    ∃ before after, unfoldValue [] 0 false input = .ok (before ++ closeRun after) ∧
        collapseFolds input = before ++ closeRun after ∧
        Scanned before after analysis ∧
        analysis.folds = input.count 13 := by
  obtain ⟨_, -, scan⟩ := Outcome.bind_eq_ok.mp accepted
  obtain ⟨before, after, written, collapsed, counted, folds⟩ :=
    scan_unfold Scanned.initial (iff_of_false Bool.false_ne_true not_mem_nil) scan
  refine ⟨before, after, written, collapsed, counted, ?_⟩
  rw [folds]
  exact Nat.zero_add _

/-- The length of the text without the space around it. -/
theorem Scanned.length_trim
    {before after : Bytes} (scanned : Scanned before after scan) :
    (trim (before ++ closeRun after)).length = scan.trimmedLength := by
  rw [trim, trimStart, trimmedLength]
  by_cases empty : before = []
  · have unseen : ¬scan.sawNonWhitespace = true := fun seen => scanned.saw.mp seen empty
    have gone : (closeRun after).dropWhile isWsp = [] :=
      dropWhile_eq_nil_iff.mpr scanned.spaced
    rw [empty, nil_append, gone, if_neg unseen]
    rfl
  · have parts : (before.takeWhile isWsp).length + (before.dropWhile isWsp).length =
        before.length := by
      rw [← length_append, takeWhile_append_dropWhile]
    have last := getLast?_eq_some_getLast empty
    have left : before.dropWhile isWsp ≠ [] := by
      intro gone
      have wsp := dropWhile_eq_nil_iff.mp gone _ (getLast_mem empty)
      rw [scanned.solid _ last] at wsp
      cases wsp
    have solid : ∀ byte ∈ (before.dropWhile isWsp).getLast?, isWsp byte = false := by
      intro byte member
      apply scanned.solid
      rw [← takeWhile_append_dropWhile (p := isWsp) (l := before), getLast?_append,
        Option.mem_def.mp member]
      rfl
    rw [dropWhile_append, if_neg (by simpa using left),
      rdropWhile_append_wsp solid scanned.spaced, if_pos (scanned.saw.mpr empty),
      scanned.written, scanned.leading, if_neg empty, scanned.trailing, length_append]
    omega

/-- Bytes of a field value are accepted, and hold no fold. -/
theorem scanValue_of_field
    {rest : Bytes} (field : ∀ byte ∈ rest, isFieldValueByte byte = true)
    (scan : ValueScan) (index : Nat) :
    ∃ final, scanValue scan index false rest = .ok final ∧ final.folds = scan.folds := by
  induction rest generalizing scan index with
  | nil => exact ⟨scan, rfl, rfl⟩
  | cons byte rest ih =>
    obtain ⟨head, tail⟩ := forall_mem_cons.mp field
    obtain ⟨final, accepted, folds⟩ := ih tail (scan.push byte) (index + 1)
    refine ⟨final, ?_, by rw [folds, folds_push]⟩
    have noReturn : byte ≠ 13 := by
      rintro rfl
      exact absurd head (by decide)
    have noFeed : byte ≠ 10 := by
      rintro rfl
      exact absurd head (by decide)
    rw [scanValue.eq_def]
    dsimp only
    rw [if_neg (by simp), if_neg noReturn, if_neg noFeed, if_neg (not_not.mpr head), accepted]

theorem Scanned.field
    {before after : Bytes} (scanned : Scanned before after scan) :
    ∀ byte ∈ before ++ closeRun after, isFieldValueByte byte = true := by
  intro byte member
  rw [mem_append] at member
  obtain member | member := member
  · exact scanned.kept byte member
  · exact isFieldValueByte_of_isWsp (scanned.spaced byte member)

theorem count_of_field {text : Bytes} (field : ∀ byte ∈ text, isFieldValueByte byte = true) :
    text.count 13 = 0 := by
  rw [count_eq_zero]
  intro member
  exact absurd (field 13 member) (by decide)

/-- A value of field bytes is analysed with its own lengths. -/
theorem analyze_of_field
    {text : Bytes} (field : ∀ byte ∈ text, isFieldValueByte byte = true)
    (short : text.length ≤ maxHeaderValueBytes) :
    ∃ analysis, analyzeLogicalValue text = .ok analysis ∧ analysis.folds = 0 ∧
      analysis.outputLength = text.length ∧ analysis.trimmedLength = (trim text).length := by
  obtain ⟨analysis, accepted, folds⟩ := scanValue_of_field field ⟨0, 0, 0, false, 0⟩ 0
  have analysed : analyzeLogicalValue text = .ok analysis := by
    rw [analyzeLogicalValue, ensure_of short, ok_bind, accepted]
  obtain ⟨before, after, -, collapsed, scanned, -⟩ := scanned_of_analyze analysed
  have plain : 13 ∉ text := count_eq_zero.mp (count_of_field field)
  have same : text = before ++ closeRun after := by
    rw [← collapsed, collapseFolds, collapseFrom_of_not_mem not_mem_nil plain, nil_append]
  refine ⟨analysis, analysed, folds, ?_, ?_⟩
  · rw [same, scanned.written]
  · rw [same, scanned.length_trim]

/-- The value is unfolded to what its analysis said, unless its bytes are not allocated: each
run with a fold is one space and all else is as it was, no line ends are left, and a second
analysis finds the same lengths. -/
def PassesAgree (input : Bytes) (analysis : ValueScan) : Prop :=
  ∃ output, (∀ grants, materializeLogicalValue grants input analysis =
      if analysis.folds = 0 ∨ grants analysis.outputLength = true then .ok output
      else .error (.allocationFailed analysis.outputLength)) ∧
    output = collapseFolds input ∧ output.length = analysis.outputLength ∧
    (trim output).length = analysis.trimmedLength ∧
    (∀ byte ∈ output, byte ≠ 13 ∧ byte ≠ 10) ∧
    (∃ again, analyzeLogicalValue output = .ok again ∧ again.folds = 0 ∧
      again.outputLength = analysis.outputLength ∧
      again.trimmedLength = analysis.trimmedLength) ∧
    (analysis.folds = 0 → output = input)

/-- The two passes agree on every value that is accepted. -/
theorem logical_passes_agree
    {input : Bytes} {analysis : ValueScan} (accepted : analyzeLogicalValue input = .ok analysis) :
    PassesAgree input analysis := by
  obtain ⟨before, after, written, collapsed, scanned, folds⟩ := scanned_of_analyze accepted
  have plain (none : analysis.folds = 0) : collapseFolds input = input := by
    rw [folds, count_eq_zero] at none
    rw [collapseFolds, collapseFrom_of_not_mem not_mem_nil none, nil_append]
  have short : (collapseFolds input).length ≤ maxHeaderValueBytes := by
    obtain ⟨_, bounded, -⟩ := Outcome.bind_eq_ok.mp accepted
    have shorter := length_collapseFrom_le [] input
    rw [length_nil, Nat.zero_add] at shorter
    exact shorter.trans (ensure_eq_ok.mp bounded)
  have field := scanned.field
  have trimmed := scanned.length_trim
  have length := scanned.written
  rw [← collapsed] at written field trimmed length
  refine ⟨collapseFolds input, ?_, rfl, length.symm, trimmed, ?_, ?_, plain⟩
  · intro grants
    rw [materializeLogicalValue]
    by_cases none : analysis.folds = 0
    · rw [if_pos none, if_pos (.inl none), plain none]
    · by_cases granted : grants analysis.outputLength = true
      · rw [if_neg none, if_pos (.inr granted), ensure_of granted, ok_bind, written, ok_bind,
          ensure_of length.symm, ok_bind]
        rfl
      · rw [if_neg none, if_neg (not_or.mpr ⟨none, granted⟩), ensure, if_neg granted, error_bind]
  · intro byte member
    constructor
    · rintro rfl
      exact absurd (field 13 member) (by decide)
    · rintro rfl
      exact absurd (field 10 member) (by decide)
  · obtain ⟨again, analysed, unfolded, same, trims⟩ := analyze_of_field field short
    exact ⟨again, analysed, unfolded, same.trans length.symm, trims.trans trimmed⟩

/-- `a`, space, a fold, two tabs, `b`. -/
theorem logical_passes_agree_folded :
    PassesAgree [97, 32, 13, 10, 9, 9, 98] ⟨3, 0, 0, true, 1⟩ :=
  logical_passes_agree (by decide)

end Headers
end Sip
end LiveAISIP
