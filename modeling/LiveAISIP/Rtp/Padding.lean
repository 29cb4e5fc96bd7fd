import LiveAISIP.Library.Outcome

/-!
# Packet padding

RTP and RTCP packets end their padding with its count, and parts of RTCP packets
are filled with zeros to a whole word.  Every encoder of
`rtp/packet` grows its output to the packet's length with zeros and writes the
count over the last of them; what stands before the count is not read.
-/

namespace LiveAISIP
namespace Rtp

open List

variable {count : UInt8}

/-- A byte vector cut or filled with zeros to a length. -/
def resize (output : List UInt8) (length : Nat) : List UInt8 :=
  output.take length ++ replicate (length - output.length) 0

theorem resize_add (output : List UInt8) (more : Nat) :
    resize output (output.length + more) = output ++ replicate more 0 := by
  rw [resize, take_of_length_le (by omega), Nat.add_sub_cancel_left]

/-- The next whole number of words. -/
def alignToWord (length : Nat) : Nat := (length + 3) / 4 * 4

theorem le_alignToWord (length : Nat) : length ≤ alignToWord length := by
  rw [alignToWord]
  omega

theorem four_dvd_alignToWord (length : Nat) : 4 ∣ alignToWord length := Nat.dvd_mul_left _ _

/-- Fill the output with zeros up to a length and end it with the count. -/
def appendPadding (overflow : ε) (paddingBytes : UInt8) (length : Nat)
    (output : List UInt8) : Except ε (List UInt8) :=
  if paddingBytes = 0 then .ok output
  else
    let resized := resize output length
    match resized.getLast? with
    | none => .error overflow
    | some _ => .ok (resized.dropLast ++ [paddingBytes])

/-- The wire form of padding: any filling before the count. -/
def paddingWith (count : UInt8) (filler : List UInt8) : List UInt8 :=
  if count = 0 then [] else filler ++ [count]

/-- The padding that an encoder writes. -/
def zeroPadding (count : UInt8) : List UInt8 :=
  paddingWith count (replicate (count.toNat - 1) 0)

theorem toNat_ne_zero (nonzero : count ≠ 0) : count.toNat ≠ 0 :=
  fun zero => nonzero (UInt8.toNat_inj.mp zero)

theorem length_paddingWith {filler : List UInt8}
    (sized : filler.length = count.toNat - 1) :
    (paddingWith count filler).length = count.toNat := by
  unfold paddingWith
  split_ifs with none
  · simp [none]
  · have positive := toNat_ne_zero none
    rw [length_append, length_singleton, sized]
    omega

theorem appendPadding_eq
    {overflow : ε} {paddingBytes : UInt8} {length : Nat} {output : List UInt8}
    (sized : length = output.length + paddingBytes.toNat) :
    appendPadding overflow paddingBytes length output =
      .ok (output ++ zeroPadding paddingBytes) := by
  subst sized
  unfold appendPadding zeroPadding paddingWith
  split_ifs with none
  · simp
  · obtain ⟨before, count⟩ : ∃ before, paddingBytes.toNat = before + 1 :=
      Nat.exists_eq_succ_of_ne_zero (toNat_ne_zero none)
    simp [resize_add, count, replicate_succ', ← append_assoc]

/-- A byte string that ends in a count holds the padding it counts. -/
theorem exists_paddingWith
    {body : List UInt8} (ends : body.getLast? = some count)
    (nonzero : count ≠ 0) (whole : count.toNat ≤ body.length) :
    ∃ content filler, filler.length = count.toNat - 1 ∧
      body = content ++ paddingWith count filler := by
  have positive := toNat_ne_zero nonzero
  obtain ⟨front, rfl⟩ := getLast?_eq_some_iff.mp ends
  rw [length_append, length_singleton] at whole
  refine ⟨front.take (front.length - (count.toNat - 1)),
    front.drop (front.length - (count.toNat - 1)), ?_, ?_⟩
  · rw [length_drop]
    omega
  · rw [paddingWith, if_neg nonzero, ← append_assoc, take_append_drop]

theorem getLast?_paddingWith (nonzero : count ≠ 0)
    (content filler : List UInt8) :
    (content ++ paddingWith count filler).getLast? = some count := by
  simp [paddingWith, nonzero]

end Rtp
end LiveAISIP
