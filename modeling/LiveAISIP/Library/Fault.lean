import LiveAISIP.Library.Outcome

/-!
# Bounded reads

Computations that read byte strings by position.  A read outside the string
is a fault of the program, which is told apart from an error that the program
returns.
-/

namespace LiveAISIP

open List

/-- Why a computation did not return a value. -/
inductive Fault (ε : Type)
  | outOfBounds
  | refused (error : ε)
  deriving DecidableEq

namespace Fault

open Outcome

variable {input rest : List UInt8} {start : Nat}

/-- A returned error under another name. -/
def map (convert : ε → δ) : Fault ε → Fault δ
  | .outOfBounds => .outOfBounds
  | .refused error => .refused (convert error)

/-- Go on when a condition holds, and return an error when it does not. -/
abbrev require (condition : Prop) [Decidable condition] (error : ε) : Except (Fault ε) Unit :=
  ensure condition (.refused error)

/-- The byte at a position. -/
def byteAt (input : List UInt8) (index : Nat) : Except (Fault ε) UInt8 :=
  match input[index]? with
  | some byte => .ok byte
  | none => .error .outOfBounds

/-- The bytes from one position up to another. -/
def range (input : List UInt8) (start stop : Nat) :
    Except (Fault ε) {bytes : List UInt8 // bytes.length = stop - start} :=
  if inside : start ≤ stop ∧ stop ≤ input.length then
    .ok ⟨(input.drop start).take (stop - start), by
      rw [length_take, length_drop]
      omega⟩
  else
    .error .outOfBounds

/-- The bytes from one position on. -/
def rangeFrom (input : List UInt8) (start : Nat) :
    Except (Fault ε) {bytes : List UInt8 // bytes.length = input.length - start} :=
  if start ≤ input.length then .ok ⟨input.drop start, length_drop⟩
  else .error .outOfBounds

/-- No fault: a value that satisfies its postcondition, or a returned error. -/
abbrev Safe (returns : α → Prop) : Except (Fault ε) α → Prop := Meets (· ≠ .outOfBounds) returns

/-- A computation goes on with what its first step returns. -/
theorem bind_of_ok
    {first : Except ε α} {second : α → Except ε β} {value : α} {outcome : Except ε β}
    (returned : first = .ok value) (remaining : second value = outcome) :
    first >>= second = outcome := by
  rw [returned, ok_bind, remaining]

theorem require_of {condition : Prop} [Decidable condition]
    (holds : condition) (error : ε) :
    require condition error = .ok () :=
  ensure_of holds _

theorem safe_require
    (condition : Prop) [Decidable condition] (error : ε) :
    Safe (fun _ => condition) (require condition error) := by
  unfold require ensure
  split_ifs with holds
  · exact holds
  · simp

theorem Safe.map
    {returns : α → Prop} {outcome : Except (Fault ε) α}
    (safe : Safe returns outcome) (convert : ε → δ) :
    Safe returns (outcome.mapError (map convert)) := by
  cases outcome with
  | ok value => exact safe
  | error fault =>
    cases fault with
    | outOfBounds => exact absurd rfl safe
    | refused error => simp [Except.mapError, Fault.map]

/-- The byte at a position inside the input. -/
theorem safe_byteAt {index : Nat} (inside : index < input.length) :
    Safe (fun byte => input.drop index = byte :: input.drop (index + 1))
      (byteAt input index : Except (Fault ε) UInt8) := by
  rw [byteAt, getElem?_eq_getElem inside]
  exact drop_eq_getElem_cons inside

/-- A range inside the input. -/
theorem safe_range {stop : Nat} (ordered : start ≤ stop)
    (inside : stop ≤ input.length) :
    Safe (fun block => input.drop start = block.val ++ input.drop stop)
      (range input start stop : Except (Fault ε) _) := by
  rw [range, dif_pos ⟨ordered, inside⟩]
  have rest : input.drop stop = (input.drop start).drop (stop - start) := by
    rw [drop_drop, Nat.add_sub_cancel' ordered]
  simp only [meets_ok, rest, take_append_drop]

theorem safe_rangeFrom (inside : start ≤ input.length) :
    Safe (fun block => block.val = input.drop start)
      (rangeFrom input start : Except (Fault ε) _) := by
  rw [rangeFrom, if_pos inside]
  rfl

/-- The rest of the input after a block of it. -/
theorem drop_next
    {block : List UInt8} {size : Nat}
    (found : input.drop start = block ++ rest) (sized : block.length = size) :
    input.drop (start + size) = rest := by
  rw [← drop_drop, found, ← sized, drop_left]

theorem drop_succ_of_drop {byte : UInt8}
    (found : input.drop start = byte :: rest) :
    input.drop (start + 1) = rest :=
  by
  rw [← drop_drop, found, drop_one, tail_cons]

theorem byteAt_of_drop {index : Nat} {byte : UInt8}
    (found : input.drop index = byte :: rest) :
    (byteAt input index : Except (Fault ε) UInt8) = .ok byte := by
  have stands : input[index]? = some byte := by
    simpa using congrArg head? found
  rw [byteAt, stands]

theorem range_of_drop
    {block : List UInt8} {stop : Nat} (found : input.drop start = block ++ rest)
    (sized : block.length = stop - start) (inside : start ≤ stop ∧ stop ≤ input.length) :
    (range input start stop : Except (Fault ε) _) = .ok ⟨block, sized⟩ := by
  rw [range, dif_pos inside]
  simp [found, ← sized]

theorem rangeFrom_of_drop (found : input.drop start = rest)
    (inside : start ≤ input.length) :
    (rangeFrom input start : Except (Fault ε) _) = .ok ⟨rest, found ▸ length_drop⟩ := by
  subst found
  exact if_pos inside

end Fault
end LiveAISIP
