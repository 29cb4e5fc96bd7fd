import Mathlib.Algebra.Group.Nat.Defs
import Mathlib.Data.List.Induction

/-!
# Big-endian numbers

Numbers of a fixed number of bytes, the most significant byte first.  Every
byte string is the representation of exactly one number of its width.
-/

namespace LiveAISIP
namespace BigEndian

open List

variable {bytes : List UInt8}

/-- The representation of a number in so many bytes. -/
def encode : Nat → Nat → List UInt8
  | 0, _ => []
  | width + 1, value => encode width (value / 256) ++ [(value % 256).toUInt8]

/-- The number that a byte string represents. -/
def decode (bytes : List UInt8) : Nat := bytes.foldl (fun value byte => value * 256 + byte.toNat) 0

@[simp] theorem length_encode (width value : Nat) :
    (encode width value).length = width := by
  induction width generalizing value with
  | zero => rfl
  | succ width ih => simp [encode, ih]

@[simp] theorem decode_nil : decode [] = 0 := rfl

@[simp] theorem decode_concat (bytes : List UInt8) (byte : UInt8) :
    decode (bytes ++ [byte]) = decode bytes * 256 + byte.toNat := by
  simp [decode]

/-- A representation is read back as its number. -/
theorem decode_encode (width value : Nat) :
    decode (encode width value) = value % 256 ^ width := by
  induction width generalizing value with
  | zero => simp [encode, Nat.mod_one]
  | succ width ih =>
    have last : (value % 256).toUInt8.toNat = value % 256 := by
      simp
    rw [encode, decode_concat, ih, last, Nat.pow_succ', Nat.mod_mul, Nat.add_comm, Nat.mul_comm]

/-- A byte string is the representation of its number. -/
theorem encode_decode (bytes : List UInt8) :
    encode bytes.length (decode bytes) = bytes := by
  induction bytes using reverseRecOn with
  | nil => rfl
  | append_singleton bytes byte ih =>
    have bound := byte.toNat_lt
    have front : (decode bytes * 256 + byte.toNat) / 256 = decode bytes := by
      omega
    have last : (decode bytes * 256 + byte.toNat) % 256 = byte.toNat := by
      omega
    rw [length_append, length_singleton, encode, decode_concat, front, last, ih]
    simp

/-- A number of so many bytes is below the number of their values. -/
theorem decode_lt (bytes : List UInt8) : decode bytes < 256 ^ bytes.length := by
  induction bytes using reverseRecOn with
  | nil => simp
  | append_singleton bytes byte ih =>
    have bound := byte.toNat_lt
    have room : (decode bytes + 1) * 256 ≤ 256 ^ bytes.length * 256 := Nat.mul_le_mul_right 256 ih
    rw [decode_concat, length_append, length_singleton, Nat.pow_succ]
    omega

/-- A representation without its most significant byte. -/
theorem drop_encode_succ (width value : Nat) :
    (encode (width + 1) value).drop 1 = encode width value := by
  induction width generalizing value with
  | zero => rfl
  | succ width ih =>
    have inside : 1 ≤ (encode (width + 1) (value / 256)).length := by
      rw [length_encode]
      omega
    rw [encode, drop_append_of_le_length inside, ih, encode]

/-- Numbers that agree in so many bytes have one representation there. -/
theorem encode_eq_of_decode {value : Nat}
    (same : value % 256 ^ bytes.length = decode bytes) :
    encode bytes.length value = bytes := by
  have again := encode_decode (encode bytes.length value)
  rw [length_encode, decode_encode, same, encode_decode] at again
  exact again.symm

/-- The wire form of a 16-bit number. -/
def halfBytes (half : UInt16) : List UInt8 := encode 2 half.toNat

/-- The 16-bit number of two bytes. -/
def halfOf (bytes : List UInt8) : UInt16 := (decode bytes).toUInt16

@[simp] theorem length_halfBytes (half : UInt16) : (halfBytes half).length = 2 := length_encode _ _

@[simp] theorem halfOf_halfBytes (half : UInt16) : halfOf (halfBytes half) = half := by
  have bound := half.toNat_lt
  rw [halfOf, halfBytes, decode_encode, Nat.mod_eq_of_lt (by omega)]
  simp

theorem halfBytes_halfOf (two : bytes.length = 2) :
    halfBytes (halfOf bytes) = bytes := by
  have bound := decode_lt bytes
  have whole := encode_decode bytes
  rw [two] at bound whole
  have exact : (halfOf bytes).toNat = decode bytes := by
    simp only [halfOf, Nat.toUInt16_eq, UInt16.toNat_ofNat']
    exact Nat.mod_eq_of_lt (by omega)
  rw [halfBytes, exact, whole]

/-- The wire form of a 32-bit word. -/
def wordBytes (word : UInt32) : List UInt8 := encode 4 word.toNat

/-- The 32-bit word of four bytes. -/
def wordOf (bytes : List UInt8) : UInt32 := (decode bytes).toUInt32

/-- The words of a byte string in chunks of four bytes. -/
def wordsOf : List UInt8 → List UInt32
  | first :: second :: third :: fourth :: rest =>
    wordOf [first, second, third, fourth] :: wordsOf rest
  | _ => []

@[simp] theorem length_wordBytes (word : UInt32) : (wordBytes word).length = 4 := length_encode _ _

@[simp] theorem wordOf_wordBytes (word : UInt32) : wordOf (wordBytes word) = word := by
  have bound := word.toNat_lt
  rw [wordOf, wordBytes, decode_encode, Nat.mod_eq_of_lt (by omega)]
  simp

theorem wordBytes_wordOf (four : bytes.length = 4) :
    wordBytes (wordOf bytes) = bytes := by
  have bound := decode_lt bytes
  have whole := encode_decode bytes
  rw [four] at bound whole
  have exact : (wordOf bytes).toNat = decode bytes := by
    simp only [wordOf, Nat.toUInt32_eq, UInt32.toNat_ofNat']
    exact Nat.mod_eq_of_lt (by omega)
  rw [wordBytes, exact, whole]

@[simp] theorem length_flatMap_wordBytes (words : List UInt32) :
    (words.flatMap wordBytes).length = 4 * words.length := by
  induction words with
  | nil => rfl
  | cons word words ih =>
    simp only [flatMap_cons, length_append, length_wordBytes, ih, length_cons]
    omega

/-- Four bytes in front of a byte string are its first word. -/
theorem wordsOf_append {block : List UInt8} (four : block.length = 4)
    (rest : List UInt8) :
    wordsOf (block ++ rest) = wordOf block :: wordsOf rest := by
  match block, four with
  | [first, second, third, fourth], _ => rfl

@[simp] theorem wordsOf_flatMap (words : List UInt32) :
    wordsOf (words.flatMap wordBytes) = words := by
  induction words with
  | nil => rfl
  | cons word words ih =>
    rw [flatMap_cons, wordsOf_append (length_wordBytes word), wordOf_wordBytes, ih]

/-- A byte string of so many words is their wire form. -/
theorem exists_words {count : Nat} (sized : bytes.length = 4 * count) :
    ∃ words : List UInt32, words.length = count ∧ bytes = words.flatMap wordBytes := by
  induction count generalizing bytes with
  | zero =>
    rw [Nat.mul_zero, length_eq_zero_iff] at sized
    exact ⟨[], rfl, sized⟩
  | succ count ih =>
    have front : (bytes.take 4).length = 4 := by
      rw [length_take]
      omega
    have sizedRest : (bytes.drop 4).length = 4 * count := by
      rw [length_drop]
      omega
    obtain ⟨words, number, rest⟩ := ih sizedRest
    refine ⟨wordOf (bytes.take 4) :: words, by simp [number], ?_⟩
    rw [flatMap_cons, wordBytes_wordOf front, ← rest, take_append_drop]

theorem length_wordsOf {count : Nat}
    (sized : bytes.length = 4 * count) :
    (wordsOf bytes).length = count := by
  obtain ⟨words, number, rfl⟩ := exists_words sized
  rw [wordsOf_flatMap, number]

end BigEndian
end LiveAISIP
