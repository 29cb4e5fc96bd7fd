import Mathlib.Algebra.Group.Nat.Defs
import Mathlib.Data.List.Basic

/-!
# ASCII bytes

Classes of ASCII bytes, comparison without regard to case, and decimal digits
accumulated in a machine word.
-/

namespace LiveAISIP
namespace Ascii

open List

variable {value : Nat}

/-- A property of all bytes is checked code by code. -/
theorem forall_byte
    {property : UInt8 → Prop}
    (checked : ∀ code : Fin 256, property code.val.toUInt8) (byte : UInt8) :
    property byte := by
  have bound : byte.toNat < 256 := byte.toNat_lt
  simpa using checked ⟨byte.toNat, bound⟩

/-- A decimal digit. -/
def isDigit (byte : UInt8) : Bool := 48 ≤ byte && byte ≤ 57

/-- Space or horizontal tab. -/
def isWsp (byte : UInt8) : Bool := byte == 32 || byte == 9

/-- A control byte. -/
def isControl (byte : UInt8) : Bool := byte < 32 || byte == 127

/-- Upper-case letters become lower-case. -/
def toLower (byte : UInt8) : UInt8 :=
  if 65 ≤ byte && byte ≤ 90 then byte + 32 else byte

/-- Equality without regard to the case of letters. -/
def eqIgnoreCase (first second : List UInt8) : Bool := first.map toLower == second.map toLower

/-- Texts that are equal without regard to case are equally long. -/
theorem length_eq_of_eqIgnoreCase
    {first second : List UInt8} (equal : eqIgnoreCase first second = true) :
    first.length = second.length := by
  simpa using congrArg length (eq_of_beq equal)

theorem not_isDigit_of_isWsp
    {byte : UInt8} (wsp : isWsp byte = true) : isDigit byte = false := by
  simp only [isWsp, Bool.or_eq_true, beq_iff_eq] at wsp
  rcases wsp with rfl | rfl <;> decide

/-- The number of values of a 64-bit word. -/
def wordSize : Nat := 2 ^ 64

/-- A decimal number with one more digit, unless it overflows a word. -/
@[irreducible] def pushDigit (value : Nat) (digit : UInt8) : Option Nat :=
  if value * 10 + (digit.toNat - 48) < wordSize then some (value * 10 + (digit.toNat - 48))
  else none

/-- The value of a sequence of digits, unless it overflows a word. -/
def decimal (value : Nat) : List UInt8 → Option Nat
  | [] => some value
  | digit :: digits =>
    match pushDigit value digit with
    | none => none
    | some value => decimal value digits

/-- Digits are read one after another. -/
theorem decimal_append (value : Nat) (first second : List UInt8) : decimal value (first ++ second) =
      (decimal value first).bind fun value => decimal value second := by
  induction first generalizing value with
  | nil => rfl
  | cons digit first ih =>
    simp only [cons_append, decimal]
    cases pushDigit value digit with
    | none => rfl
    | some value => exact ih value

/-- The decimal digits of a number. -/
def digits (value : Nat) : List UInt8 :=
  (Nat.toDigits 10 value).map fun digit => digit.toNat.toUInt8

theorem digits_ne_nil (value : Nat) : digits value ≠ [] := by
  simp [digits, Nat.toDigits_ne_nil]

/-- The digits of a number are its last digit after those of the rest. -/
theorem digits_eq (value : Nat) : digits value =
      if value < 10 then [(48 + value).toUInt8]
      else digits (value / 10) ++ [(48 + value % 10).toUInt8] := by
  have last (digit : Nat) (small : digit < 10) :
      (Nat.digitChar digit).toNat.toUInt8 = (48 + digit).toUInt8 := by
    have checked : ∀ digit : Fin 10, (Nat.digitChar digit).toNat.toUInt8 =
        (48 + digit.val).toUInt8 := by
      decide
    exact checked ⟨digit, small⟩
  rw [digits, Nat.toDigits_eq_if (by decide)]
  split_ifs with small
  · simp [last value small]
  · simp [digits, last (value % 10) (Nat.mod_lt _ (by decide))]

theorem isDigit_digit
    {digit : Nat} (small : digit < 10) :
    isDigit (48 + digit).toUInt8 = true ∧ (48 + digit).toUInt8.toNat - 48 = digit := by
  have checked : ∀ digit : Fin 10, isDigit (48 + digit.val).toUInt8 = true ∧
      (48 + digit.val).toUInt8.toNat - 48 = digit.val := by
    decide
  exact checked ⟨digit, small⟩

theorem isDigit_of_mem_digits {byte : UInt8} (member : byte ∈ digits value) :
    isDigit byte = true := by
  induction value using Nat.strongRecOn with
  | ind value ih =>
    rw [digits_eq] at member
    split_ifs at member with small
    · rw [mem_singleton.mp member]
      exact (isDigit_digit small).1
    · rcases mem_append.mp member with front | last
      · exact ih (value / 10) (by omega) front
      · rw [mem_singleton.mp last]
        exact (isDigit_digit (Nat.mod_lt _ (by decide))).1

theorem pushDigit_of_lt
    {digit : Nat} (small : digit < 10) (fits : value * 10 + digit < wordSize) :
    pushDigit value (48 + digit).toUInt8 = some (value * 10 + digit) := by
  unfold pushDigit
  rw [(isDigit_digit small).2, if_pos fits]

/-- The digits of a word are read back as the word. -/
theorem decimal_digits (word : value < wordSize) :
    decimal 0 (digits value) = some value := by
  induction value using Nat.strongRecOn with
  | ind value ih =>
    rw [digits_eq]
    split_ifs with small
    · simp only [decimal]
      rw [pushDigit_of_lt small (by omega)]
      simp
    · have front := ih (value / 10) (by omega) (by omega)
      rw [decimal_append, front]
      simp only [Option.bind_some, decimal]
      rw [pushDigit_of_lt (Nat.mod_lt _ (by decide)) (by omega), Nat.div_add_mod']

/-- The value of a sequence of digits, unless it reaches a limit on the way. -/
def decimalBelow (limit value : Nat) : List UInt8 → Option Nat
  | [] => some value
  | digit :: digits =>
    let next := value * 10 + (digit.toNat - 48)
    if limit ≤ next then none else decimalBelow limit next digits

theorem decimalBelow_append (limit value : Nat) (first second : List UInt8) :
    decimalBelow limit value (first ++ second) = (decimalBelow limit value first).bind fun value =>
        decimalBelow limit value second := by
  induction first generalizing value with
  | nil => rfl
  | cons digit first ih =>
    simp only [cons_append, decimalBelow]
    split_ifs with reached
    · rfl
    · exact ih _

/-- The digits of a number below the limit are read back as the number. -/
theorem decimalBelow_digits {limit : Nat} (below : value < limit) :
    decimalBelow limit 0 (digits value) = some value := by
  induction value using Nat.strongRecOn with
  | ind value ih =>
    rw [digits_eq]
    split_ifs with small
    · simp only [decimalBelow, (isDigit_digit small).2, Nat.zero_mul, Nat.zero_add]
      rw [if_neg (by omega)]
    · have front := ih (value / 10) (by omega) (by omega)
      have last := isDigit_digit (Nat.mod_lt value (by decide : 0 < 10))
      rw [decimalBelow_append, front]
      simp only [Option.bind_some, decimalBelow, last.2]
      rw [Nat.div_add_mod', if_neg (by omega)]

/-- A number that is read from digits has no more digits than these. -/
theorem lt_of_decimalBelow
    {limit result : Nat} {text : List UInt8} (decimals : text.all isDigit = true)
    (read : decimalBelow limit value text = some result) :
    result < (value + 1) * 10 ^ text.length := by
  induction text generalizing value with
  | nil =>
    cases read
    simp
  | cons digit text ih =>
    simp only [decimalBelow] at read
    split_ifs at read
    rw [all_cons, Bool.and_eq_true] at decimals
    have digitBound : ∀ byte : UInt8, isDigit byte = true → byte.toNat - 48 ≤ 9 := by
      intro byte
      simp only [isDigit, Bool.and_eq_true, decide_eq_true_eq, UInt8.le_iff_toNat_le,
        UInt8.reduceToNat]
      omega
    have bound := digitBound digit decimals.1
    have rest := ih decimals.2 read
    refine Nat.lt_of_lt_of_le rest ?_
    rw [length_cons, Nat.pow_succ, Nat.mul_comm (10 ^ _), ← Nat.mul_assoc]
    exact Nat.mul_le_mul_right _ (by omega)

theorem length_digits_le
    {size : Nat} (positive : 0 < size) (below : value < 10 ^ size) :
    (digits value).length ≤ size := by
  induction value using Nat.strongRecOn generalizing size with
  | ind value ih =>
    rw [digits_eq]
    split_ifs with small
    · exact positive
    · obtain ⟨size, rfl⟩ := Nat.exists_eq_succ_of_ne_zero (Nat.ne_of_gt positive)
      have front : value / 10 < 10 ^ size := by
        rw [Nat.pow_succ] at below
        omega
      have more : 0 < size := by
        by_contra none
        obtain rfl : size = 0 := by omega
        simp at below
        omega
      have bound := ih (value / 10) (by omega) more front
      simp
      omega

/-- The digits of a number are its shortest spelling. -/
theorem length_digits_of_decimalBelow
    {limit : Nat} {text : List UInt8} (nonempty : text ≠ [])
    (decimals : text.all isDigit = true) (read : decimalBelow limit 0 text = some value) :
    (digits value).length ≤ text.length := by
  have below := lt_of_decimalBelow decimals read
  exact length_digits_le (length_pos_iff.mpr nonempty) (by simpa using below)

end Ascii
end LiveAISIP
