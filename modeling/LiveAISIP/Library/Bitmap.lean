import Mathlib.Data.Finset.Card
import Mathlib.Data.Fintype.Basic
import Mathlib.Data.Nat.Bitwise

/-!
# Sets in packed words

A set of indices below a bound, kept as the bits of a list of 64-bit words.
Setting a bit inserts its index and clearing it erases the index.
-/

namespace LiveAISIP

/-- Bits of a word. -/
def bitsPerWord : Nat := 64

namespace Word

/-- The word with one bit. -/
def mask (bit : Nat) : UInt64 := 1 <<< bit.toUInt64

/-- A bit of a word. -/
def bit (word : UInt64) (index : Nat) : Bool := word &&& mask index != 0

/-- The word with a bit set or cleared. -/
def setBit (word : UInt64) (index : Nat) (value : Bool) : UInt64 :=
  if value then word ||| mask index else word &&& ~~~mask index

theorem toNat_mask {index : Nat} (small : index < bitsPerWord) :
    (mask index).toNat = 2 ^ index := by
  have bounded : 2 ^ index < 2 ^ 64 := Nat.pow_lt_pow_right (by decide) small
  have kept : index % 2 ^ 64 % 64 = index := by
    simp only [bitsPerWord] at small
    omega
  rw [mask, UInt64.toNat_shiftLeft, Nat.toUInt64_eq, UInt64.toNat_ofNat', kept,
    UInt64.toNat_one, Nat.shiftLeft_eq, Nat.one_mul, Nat.mod_eq_of_lt bounded]

theorem bit_eq_testBit {index : Nat} (small : index < bitsPerWord) (word : UInt64) :
    bit word index = word.toNat.testBit index := by
  have zero : word &&& mask index = 0 ↔ word.toNat.testBit index = false := by
    rw [← UInt64.toNat_inj, UInt64.toNat_and, toNat_mask small, Nat.and_two_pow,
      UInt64.toNat_zero, Nat.mul_eq_zero]
    simp
  cases stands : word.toNat.testBit index with
  | false => simpa [bit, stands] using zero
  | true => simpa [bit, stands] using zero

/-- Only the bit that is set changes. -/
theorem bit_setBit
    {index other : Nat} (small : index < bitsPerWord) (inside : other < bitsPerWord)
    (word : UInt64) (value : Bool) :
    bit (setBit word index value) other = if index = other then value else bit word other := by
  rw [bit_eq_testBit inside, bit_eq_testBit inside]
  cases value with
  | true =>
    rw [setBit, if_pos rfl, UInt64.toNat_or, toNat_mask small, Nat.testBit_or, Nat.testBit_two_pow]
    by_cases same : index = other <;> simp [same]
  | false =>
    have bounded : 2 ^ index < 2 ^ 64 := Nat.pow_lt_pow_right (by decide) small
    have complement : (~~~mask index).toNat = 2 ^ 64 - (2 ^ index + 1) := by
      rw [UInt64.toNat_not, toNat_mask small, UInt64.size]
      omega
    rw [setBit, if_neg (by decide), UInt64.toNat_and, complement, Nat.testBit_and,
      Nat.testBit_two_pow_sub_succ bounded, Nat.testBit_two_pow]
    simp only [bitsPerWord] at inside
    by_cases same : index = other <;> simp [same, inside]

end Word

/-- A set of indices below a size. -/
structure Bitmap (size : Nat) where
  words : List UInt64
  length_eq : words.length = (size + bitsPerWord - 1) / bitsPerWord

namespace Bitmap

variable {size : Nat}

/-- No index. -/
def empty (size : Nat) : Bitmap size where
  words := List.replicate ((size + bitsPerWord - 1) / bitsPerWord) 0
  length_eq := List.length_replicate

/-- The word of an index. -/
def word (bitmap : Bitmap size) (index : Fin size) : Fin bitmap.words.length where
  val := index.val / bitsPerWord
  isLt := by
    rw [bitmap.length_eq]
    have inside := index.isLt
    simp only [bitsPerWord]
    omega

/-- The index is in the set. -/
def bit (bitmap : Bitmap size) (index : Fin size) : Bool :=
  Word.bit (bitmap.words.get (bitmap.word index)) (index.val % bitsPerWord)

/-- Put an index into the set or take it out. -/
def setBit (bitmap : Bitmap size) (index : Fin size) (value : Bool) : Bitmap size where
  words := bitmap.words.set (bitmap.word index)
    (Word.setBit (bitmap.words.get (bitmap.word index)) (index.val % bitsPerWord) value)
  length_eq := by rw [List.length_set, bitmap.length_eq]

@[simp] theorem bit_empty (index : Fin size) : (empty size).bit index = false := by
  simp [bit, empty, Word.bit]

theorem position_lt (index : Fin size) : index.val % bitsPerWord < bitsPerWord :=
  Nat.mod_lt _ (by decide)

@[simp] theorem bit_setBit
    (bitmap : Bitmap size) (index other : Fin size) (value : Bool) :
    (bitmap.setBit index value).bit other = if index = other then value else bitmap.bit other := by
  have found : ((bitmap.setBit index value).words.get ((bitmap.setBit index value).word other)) =
      if index.val / bitsPerWord = other.val / bitsPerWord then
        Word.setBit (bitmap.words.get (bitmap.word index)) (index.val % bitsPerWord) value
      else bitmap.words.get (bitmap.word other) := by
    simp only [setBit, word, List.get_eq_getElem, List.getElem_set]
  rw [bit, found]
  by_cases sameWord : index.val / bitsPerWord = other.val / bitsPerWord
  · have words : bitmap.word index = bitmap.word other := Fin.ext sameWord
    rw [if_pos sameWord, Word.bit_setBit (position_lt _) (position_lt _), words]
    -- In one word the indices differ by their positions.
    have positions : index.val % bitsPerWord = other.val % bitsPerWord ↔ index = other := by
      rw [Fin.ext_iff]
      simp only [bitsPerWord] at sameWord ⊢
      omega
    simp only [positions, bit]
  · have differ : index ≠ other := by
      rintro rfl
      exact sameWord rfl
    rw [if_neg sameWord, if_neg differ, bit]

/-- The indices of the set. -/
def members (bitmap : Bitmap size) : Finset (Fin size) :=
  Finset.univ.filter fun index => bitmap.bit index = true

@[simp] theorem mem_members (bitmap : Bitmap size) (index : Fin size) :
    index ∈ bitmap.members ↔ bitmap.bit index = true := by
  simp [members]

@[simp] theorem members_empty : (empty size).members = ∅ := by
  ext index
  simp

@[simp] theorem members_setBit_true (bitmap : Bitmap size) (index : Fin size) :
    (bitmap.setBit index true).members = insert index bitmap.members := by
  ext other
  by_cases same : index = other
  · simp [same]
  · simp [same, Ne.symm same]

@[simp] theorem members_setBit_false (bitmap : Bitmap size) (index : Fin size) :
    (bitmap.setBit index false).members = bitmap.members.erase index := by
  ext other
  by_cases same : index = other
  · simp [same]
  · simp [same, Ne.symm same]

end Bitmap
end LiveAISIP
