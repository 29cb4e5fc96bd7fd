import Mathlib.Data.List.Basic

/-!
# Writing into a list

A block of values takes the place of as many values of a list.  Reading the
place gives the block; reading anything beside it gives what was there before.
-/

namespace LiveAISIP
namespace Splice

open List

variable {values block : List α} {start : Nat}

/-- The list with a block from a position on. -/
def splice (values : List α) (start : Nat) (block : List α) : List α :=
  values.take start ++ block ++ values.drop (start + block.length)

/-- The values from a position on, so many of them. -/
def slice (values : List α) (start count : Nat) : List α := (values.drop start).take count

@[simp] theorem length_splice (inside : start + block.length ≤ values.length) :
    (splice values start block).length = values.length := by
  simp only [splice, length_append, length_take, length_drop]
  omega

/-- The block stands at its position. -/
theorem slice_splice_self (inside : start + block.length ≤ values.length) :
    slice (splice values start block) start block.length = block := by
  have taken : (values.take start).length = start := by
    rw [length_take]
    omega
  rw [slice, splice, append_assoc, drop_append_of_le_length (by omega),
    drop_of_length_le (by omega), nil_append, take_left]

/-- What stands before the block is unchanged. -/
theorem slice_splice_before {other count : Nat}
    (inside : start + block.length ≤ values.length) (before : other + count ≤ start) :
    slice (splice values start block) other count = slice values other count := by
  have taken : (values.take start).length = start := by
    rw [length_take]
    omega
  rw [slice, slice, splice, append_assoc, drop_append_of_le_length (by omega),
    take_append_of_le_length (by rw [length_drop]; omega), drop_take,
    take_take, Nat.min_eq_left (by omega)]

/-- What stands after the block is unchanged. -/
theorem slice_splice_after {other count : Nat}
    (inside : start + block.length ≤ values.length) (behind : start + block.length ≤ other) :
    slice (splice values start block) other count = slice values other count := by
  have written : (values.take start ++ block).length = start + block.length := by
    rw [length_append, length_take]
    omega
  have rest : other = (values.take start ++ block).length +
      (other - (start + block.length)) := by omega
  rw [slice, splice, slice]
  congr 1
  conv_lhs => rw [rest]
  rw [drop_length_add_append, drop_drop]
  congr 1
  omega

end Splice
end LiveAISIP
