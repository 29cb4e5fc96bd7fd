import Mathlib.Data.Finset.Card
import Mathlib.Data.List.TakeWhile
import Mathlib.Order.Interval.Finset.Nat
import Mathlib.Tactic.Tauto

/-!
# Gaps of a reordered stream

A stream of indices arrives roughly in order.  An index that was overtaken may
still arrive until the highest index is a whole window above it.  Each index
above the first is then missing, recovered, lost or was seen in its turn.
-/

namespace LiveAISIP
namespace ReorderWindow

open Finset

/-- The largest index of a stream. -/
def highest (stream : List Nat) : Nat := stream.foldl max 0

/-- The indices observed before one of them reached a bound. -/
def before (bound : Nat) (stream : List Nat) : List Nat := stream.takeWhile (· < bound)

/-- The overtaken indices that may still arrive. -/
def missing (window start : Nat) (stream : List Nat) : Finset Nat :=
  (Ioo (max start (highest stream - window)) (highest stream)).filter (· ∉ stream)

/-- The overtaken indices that arrived in time. -/
def recovered (window start : Nat) (stream : List Nat) : Finset Nat :=
  (Ioo start (highest stream)).filter fun index =>
    index ∉ before (index + 1) stream ∧ index ∈ before (index + window) stream

/-- The overtaken indices that did not arrive in time. -/
def lost (window start : Nat) (stream : List Nat) : Finset Nat :=
  (Ioc start (highest stream - window)).filter fun index =>
    index ∉ before (index + window) stream

@[simp] theorem highest_singleton (index : Nat) : highest [index] = index := by
  simp [highest]

@[simp] theorem highest_concat (stream : List Nat) (index : Nat) :
    highest (stream ++ [index]) = max (highest stream) index := by
  simp [highest]

theorem le_highest {stream : List Nat} {index : Nat} (observed : index ∈ stream) :
    index ≤ highest stream := by
  induction stream using List.reverseRecOn with
  | nil => simp at observed
  | append_singleton stream last ih =>
    rw [highest_concat]
    rcases List.mem_append.1 observed with earlier | final
    · exact le_max_of_le_left (ih earlier)
    · rw [List.mem_singleton.1 final]
      exact le_max_right _ _

theorem highest_mem {stream : List Nat} (nonempty : stream ≠ []) :
    highest stream ∈ stream := by
  induction stream using List.reverseRecOn with
  | nil => exact absurd rfl nonempty
  | append_singleton stream last ih =>
    rw [highest_concat]
    rcases le_total last (highest stream) with below | above
    · rw [max_eq_left below]
      by_cases empty : stream = []
      · subst empty
        have zero : last = 0 := Nat.le_zero.1 below
        simp [highest, zero]
      · exact List.mem_append_left _ (ih empty)
    · rw [max_eq_right above]
      simp

theorem before_subset (bound : Nat) (stream : List Nat) : before bound stream ⊆ stream :=
  List.takeWhile_subset _

/-- Only observed indices are recovered. -/
theorem mem_of_mem_recovered
    {window start index : Nat} {stream : List Nat}
    (arrived : index ∈ recovered window start stream) : index ∈ stream :=
  before_subset _ _ (mem_filter.1 arrived).2.2

/-- While no index reached the bound, all are observed before it. -/
theorem before_of_highest_lt
    {bound : Nat} {stream : List Nat} (below : highest stream < bound) :
    before bound stream = stream := by
  rw [before, List.takeWhile_eq_self_iff]
  intro index observed
  exact decide_eq_true ((le_highest observed).trans_lt below)

/-- Once an index reached the bound, later ones do not count. -/
theorem before_concat_of_le
    {bound : Nat} {stream : List Nat} (reached : bound ≤ highest stream) (index : Nat) :
    before bound (stream ++ [index]) = before bound stream := by
  by_cases empty : stream = []
  · subst empty
    have zero : bound = 0 := Nat.le_zero.1 reached
    simp [before, zero]
  · rw [before, before, List.takeWhile_append, if_neg]
    intro whole
    have every := List.takeWhile_eq_self_iff.1 ((List.takeWhile_prefix _).eq_of_length whole)
    have under := of_decide_eq_true (every _ (highest_mem empty))
    exact absurd reached (by omega)

theorem mem_before_concat_of_lt
    {bound : Nat} {stream : List Nat} (below : highest stream < bound) (index other : Nat) :
    other ∈ before bound (stream ++ [index]) ↔ other ∈ stream ∨ other = index ∧ index < bound := by
  have whole : stream.takeWhile (· < bound) = stream := before_of_highest_lt below
  rw [before, List.takeWhile_append, if_pos (by rw [whole]), List.mem_append]
  by_cases under : index < bound
  · simp [under]
  · simp [under]

section Concat

variable {window start index : Nat} {stream : List Nat}

/-- A late index is no longer missing. -/
theorem missing_concat_of_le (late : index ≤ highest stream) :
    missing window start (stream ++ [index]) = (missing window start stream).erase index := by
  ext other
  simp only [missing, highest_concat, max_eq_left late, mem_filter,
    mem_Ioo, mem_erase, List.mem_append, List.mem_singleton]
  tauto

/-- The indices that wait while a new highest index arrives. -/
def waiting (window start index : Nat) (stream : List Nat) : Finset Nat :=
  missing window start stream ∪ Ioo (highest stream) index

theorem mem_waiting_iff
    (nonempty : stream ≠ []) (other : Nat) :
    other ∈ waiting window start index stream ↔
      (start < other ∧ other < max (highest stream) index ∧ other ∉ stream ∧
        highest stream < other + window) ∨
      (highest stream < other ∧ other < index) := by
  have top := highest_mem nonempty
  simp only [waiting, missing, mem_union, mem_filter, mem_Ioo]
  by_cases same : other = highest stream
  · simp [same, top]
  · constructor
    · rintro (⟨⟨low, high⟩, absent⟩ | passed)
      · left
        exact ⟨by omega, by omega, absent, by omega⟩
      · right
        exact passed
    · rintro (⟨low, high, absent, young⟩ | passed)
      · rcases Nat.lt_or_gt_of_ne same with below | above
        · left
          exact ⟨by omega, absent⟩
        · right
          omega
      · right
        exact passed

/-- A new highest index leaves the young ones missing. -/
theorem missing_concat_of_lt
    (nonempty : stream ≠ []) (started : start ≤ highest stream) (ahead : highest stream < index) :
    missing window start (stream ++ [index]) =
      (waiting window start index stream).filter (index < · + window) := by
  ext other
  have beyond : highest stream < other → other ∉ stream := by
    intro above observed
    exact absurd (le_highest observed) (by omega)
  rw [mem_filter, mem_waiting_iff nonempty, missing, highest_concat,
    max_eq_right ahead.le, mem_filter, mem_Ioo, List.mem_append, List.mem_singleton]
  constructor
  · rintro ⟨⟨low, high⟩, absent⟩
    rw [not_or] at absent
    exact ⟨Or.inl ⟨by omega, high, absent.1, by omega⟩, by omega⟩
  · rintro ⟨⟨low, high, absent, -⟩ | ⟨low, high⟩, young⟩
    · exact ⟨by omega, by rintro (observed | rfl); exacts [absent observed, by omega]⟩
    · exact ⟨by omega, by rintro (observed | rfl); exacts [beyond low observed, by omega]⟩

/-- A late index makes no other one lost. -/
theorem lost_concat_of_le (late : index ≤ highest stream) :
    lost window start (stream ++ [index]) = lost window start stream := by
  ext other
  simp only [lost, highest_concat, max_eq_left late, mem_filter, mem_Ioc]
  apply and_congr_right
  intro inside
  rw [before_concat_of_le (by omega)]

/-- A new highest index makes the old ones lost. -/
theorem lost_concat_of_lt
    (positive : 0 < window) (nonempty : stream ≠ []) (started : start ≤ highest stream)
    (ahead : highest stream < index) :
    lost window start (stream ++ [index]) = lost window start stream ∪
        (waiting window start index stream).filter (· + window ≤ index) := by
  ext other
  have beyond : highest stream < other → other ∉ stream := by
    intro above observed
    exact absurd (le_highest observed) (by omega)
  rw [mem_union, mem_filter, mem_waiting_iff nonempty, lost, lost,
    highest_concat, max_eq_right ahead.le, mem_filter, mem_filter,
    mem_Ioc, mem_Ioc]
  rcases Nat.lt_or_ge (highest stream) (other + window) with young | old
  · rw [mem_before_concat_of_lt young]
    constructor
    · rintro ⟨inside, absent⟩
      rw [not_or] at absent
      exact Or.inr ⟨Or.inl ⟨by omega, by omega, absent.1, young⟩, by omega⟩
    · rintro (⟨inside, -⟩ | ⟨⟨low, high, absent, -⟩ | ⟨low, high⟩, gone⟩)
      · omega
      · exact ⟨by omega, by rintro (observed | same); exacts [absent observed, by omega]⟩
      · exact ⟨by omega, by rintro (observed | same); exacts [beyond low observed, by omega]⟩
  · rw [before_concat_of_le old]
    constructor
    · rintro ⟨inside, absent⟩
      exact Or.inl ⟨by omega, absent⟩
    · rintro (⟨inside, absent⟩ | ⟨⟨-, -, -, young⟩ | ⟨low, high⟩, gone⟩)
      · exact ⟨by omega, absent⟩
      · omega
      · omega

/-- A late index is recovered when it was missing. -/
theorem recovered_concat_of_le (late : index ≤ highest stream) :
    recovered window start (stream ++ [index]) =
      if index ∈ missing window start stream then insert index (recovered window start stream)
      else recovered window start stream := by
  have inOrder (other : Nat) (below : other < highest stream) :
      before (other + 1) (stream ++ [index]) = before (other + 1) stream :=
    before_concat_of_le below index
  have inTime (other : Nat) : other ∈ before (other + window) (stream ++ [index]) ↔
        other ∈ before (other + window) stream ∨
          other = index ∧ highest stream < other + window := by
    rcases Nat.lt_or_ge (highest stream) (other + window) with young | old
    · rw [mem_before_concat_of_lt young, before_of_highest_lt young]
      constructor
      · rintro (observed | ⟨same, -⟩)
        · exact Or.inl observed
        · exact Or.inr ⟨same, young⟩
      · rintro (observed | ⟨same, -⟩)
        · exact Or.inl observed
        · exact Or.inr ⟨same, by omega⟩
    · rw [before_concat_of_le old]
      simp [Nat.not_lt.2 old]
  ext other
  have member : other ∈ recovered window start (stream ++ [index]) ↔
      (start < other ∧ other < highest stream) ∧ other ∉ before (other + 1) stream ∧
          (other ∈ before (other + window) stream ∨
            other = index ∧ highest stream < other + window) := by
    simp only [recovered, highest_concat, max_eq_left late, mem_filter, mem_Ioo, inTime]
    apply and_congr_right
    intro inside
    rw [inOrder other inside.2]
  have old : other ∈ recovered window start stream ↔ (start < other ∧ other < highest stream) ∧
        other ∉ before (other + 1) stream ∧ other ∈ before (other + window) stream := by
    simp [recovered]
  have gap : index ∈ missing window start stream ↔
      (start < index ∧ index < highest stream) ∧ highest stream < index + window ∧
        index ∉ stream := by
    simp only [missing, mem_filter, mem_Ioo]
    constructor
    · rintro ⟨inside, absent⟩
      exact ⟨by omega, by omega, absent⟩
    · rintro ⟨inside, young, absent⟩
      exact ⟨by omega, absent⟩
  rw [member]
  split
  next stands =>
    obtain ⟨inside, young, absent⟩ := gap.1 stands
    rw [mem_insert, old]
    constructor
    · rintro ⟨within, unseen, observed | ⟨same, -⟩⟩
      · exact Or.inr ⟨within, unseen, observed⟩
      · exact Or.inl same
    · rintro (rfl | ⟨within, unseen, observed⟩)
      · exact ⟨inside, fun seen => absent (before_subset _ _ seen), Or.inr ⟨rfl, young⟩⟩
      · exact ⟨within, unseen, Or.inl observed⟩
  next closed =>
    rw [old]
    constructor
    · rintro ⟨within, unseen, observed | ⟨rfl, young⟩⟩
      · exact ⟨within, unseen, observed⟩
      · refine ⟨within, unseen, ?_⟩
        rw [before_of_highest_lt young]
        by_contra absent
        exact closed (gap.2 ⟨within, young, absent⟩)
    · rintro ⟨within, unseen, observed⟩
      exact ⟨within, unseen, Or.inl observed⟩

/-- A new highest index recovers nothing. -/
theorem recovered_concat_of_lt
    (nonempty : stream ≠ []) (ahead : highest stream < index) :
    recovered window start (stream ++ [index]) = recovered window start stream := by
  ext other
  simp only [recovered, highest_concat, max_eq_right ahead.le, mem_filter, mem_Ioo]
  rcases Nat.lt_trichotomy other (highest stream) with below | same | above
  · have under : other < index := below.trans ahead
    rw [before_concat_of_le (show other + 1 ≤ highest stream from below)]
    rcases Nat.lt_or_ge (highest stream) (other + window) with young | old
    · rw [mem_before_concat_of_lt young, before_of_highest_lt young]
      simp [under.ne, below, under]
    · rw [before_concat_of_le old]
      simp [below, under]
  · have seen : other ∈ before (other + 1) (stream ++ [index]) := by
      rw [mem_before_concat_of_lt (by omega)]
      left
      rw [same]
      exact highest_mem nonempty
    simp only [seen, not_true_eq_false, false_and, and_false, false_iff]
    omega
  · constructor
    · rintro ⟨inside, -, observed⟩
      rcases List.mem_append.1 (before_subset _ _ observed) with earlier | final
      · exact absurd (le_highest earlier) (by omega)
      · rw [List.mem_singleton] at final
        omega
    · rintro ⟨inside, -⟩
      omega

end Concat

section Counts

variable {window start index : Nat} {stream : List Nat}

/-- The waiting indices are the missing ones and those just passed. -/
theorem card_waiting :
    (waiting window start index stream).card =
      (missing window start stream).card + (index - highest stream - 1) := by
  rw [waiting, card_union_of_disjoint, Nat.card_Ioo]
  rw [disjoint_left]
  intro other stands passed
  simp only [missing, mem_filter, mem_Ioo] at stands passed
  omega

/-- A new highest index adds the indices it passed to those lost or missing. -/
theorem card_lost_add_card_missing_concat
    (positive : 0 < window) (nonempty : stream ≠ []) (started : start ≤ highest stream)
    (ahead : highest stream < index) :
    (lost window start (stream ++ [index])).card + (missing window start (stream ++ [index])).card =
      (lost window start stream).card + (missing window start stream).card +
        (index - highest stream - 1) := by
  rw [lost_concat_of_lt positive nonempty started ahead,
    missing_concat_of_lt nonempty started ahead, card_union_of_disjoint, add_assoc,
    add_assoc, ← card_waiting, ← card_filter_add_card_filter_not
      (s := waiting window start index stream) (· + window ≤ index)]
  · simp only [Nat.not_le]
  · rw [disjoint_left]
    intro other gone stands
    rw [mem_filter, mem_waiting_iff nonempty] at stands
    simp only [lost, mem_filter, mem_Ioc] at gone
    omega

/-- Indices lost or missing lie between the first and the highest one. -/
theorem card_lost_add_card_missing_le :
    (lost window start stream).card + (missing window start stream).card ≤
      highest stream - start := by
  have apart : Disjoint (lost window start stream) (missing window start stream) := by
    rw [disjoint_left]
    intro other gone stands
    simp only [lost, missing, mem_filter, mem_Ioc, mem_Ioo] at gone stands
    omega
  rw [← card_union_of_disjoint apart, ← Nat.card_Ioc]
  apply card_le_card
  intro other either
  simp only [lost, missing, mem_union, mem_filter, mem_Ioc, mem_Ioo] at either ⊢
  omega

theorem card_recovered_le :
    (recovered window start stream).card ≤ highest stream - start := by
  rw [← Nat.card_Ioc]
  apply card_le_card
  intro other arrived
  simp only [recovered, mem_filter, mem_Ioo, mem_Ioc] at arrived ⊢
  omega

end Counts

end ReorderWindow
end LiveAISIP
