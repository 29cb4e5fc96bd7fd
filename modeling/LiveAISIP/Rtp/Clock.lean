import LiveAISIP.Library.Effect
import LiveAISIP.Rtp.Statistics
import Mathlib.Algebra.GroupWithZero.Nat

/-!
# The media clock

`RtpClock` of `rtp/clock.rs`: elapsed time becomes ticks of the media clock, and
the part of a tick that is left over is kept for the next advance.
-/

namespace LiveAISIP
namespace Rtp

open Transaction (Duration)

/-- Nanoseconds in a second. -/
def nanosPerSecond : Nat := 1000000000

/-- A timestamp generator.  The fraction counts billionths of a tick. -/
structure RtpClock where
  rate : RtpClockRate
  timestamp : UInt32
  fractionalNumerator : UInt32
  fractional_lt : fractionalNumerator.toNat < nanosPerSecond
  deriving DecidableEq

namespace RtpClock

variable {clock next : RtpClock} {elapsed : Duration}

/-- A clock at its initial timestamp. -/
def new (rate : RtpClockRate) (initialTimestamp : UInt32) : RtpClock where
  rate := rate
  timestamp := initialTimestamp
  fractionalNumerator := 0
  fractional_lt := by decide

/-- Elapsed time and the kept fraction, in billionths of a tick. -/
def numerator (clock : RtpClock) (elapsed : Duration) : Nat :=
  elapsed.asNanos * clock.rate.get.toNat + clock.fractionalNumerator.toNat

theorem fractional_toNat (numerator : Nat) :
    (numerator % nanosPerSecond).toUInt32.toNat = numerator % nanosPerSecond := by
  have small : numerator % nanosPerSecond < 1000000000 := Nat.mod_lt _ (by decide)
  simp only [Nat.toUInt32_eq, UInt32.toNat_ofNat']
  omega

/-- The clock after a number of billionths of a tick.  The timestamp takes the low
half of the tick count. -/
def moved (clock : RtpClock) (numerator : Nat) : RtpClock where
  rate := clock.rate
  timestamp := clock.timestamp + (numerator / nanosPerSecond).toUInt64.toUInt32
  fractionalNumerator := (numerator % nanosPerSecond).toUInt32
  fractional_lt := by
    rw [fractional_toNat]
    exact Nat.mod_lt _ (by decide)

/-- Advance by elapsed time and return the whole ticks. -/
def advance (elapsed : Duration) : Effect RtpClock RtpClockError UInt64 := fun clock =>
  if 2 ^ 128 ≤ elapsed.asNanos * clock.rate.get.toNat ∨
      2 ^ 128 ≤ clock.numerator elapsed then (clock, .error .arithmeticOverflow)
  else if 2 ^ 64 ≤ clock.numerator elapsed / nanosPerSecond then
    (clock, .error .tickCountOverflow)
  else if 2 ^ 32 ≤ clock.numerator elapsed % nanosPerSecond then
    (clock, .error .arithmeticOverflow)
  else
    (clock.moved (clock.numerator elapsed), .ok (clock.numerator elapsed / nanosPerSecond).toUInt64)

/-- Advance by one duration after the other, up to the first failure, and return
the ticks of each. -/
def advanceAll : List Duration → Effect RtpClock RtpClockError (List UInt64)
  | [] => pure []
  | elapsed :: rest => do
    let ticks ← advance elapsed
    let later ← advanceAll rest
    return ticks :: later

/-- The products of a duration fit the intermediate type. -/
theorem numerator_lt (clock : RtpClock) (elapsed : Duration) :
    clock.numerator elapsed < 2 ^ 128 := by
  have nanos := elapsed.representable
  have ticks := clock.rate.get_le
  have fraction := clock.fractional_lt
  have product : elapsed.asNanos * clock.rate.get.toNat ≤ (2 ^ 64 * 10 ^ 9 - 1) * 1000000000 :=
    Nat.mul_le_mul nanos ticks
  simp only [nanosPerSecond] at fraction
  simp only [numerator]
  omega

/-- An advance fails only where the ticks do not fit their type. -/
theorem advance_eq (clock : RtpClock) (elapsed : Duration) : advance elapsed clock =
      if 2 ^ 64 ≤ clock.numerator elapsed / nanosPerSecond then
        (clock, .error .tickCountOverflow)
      else
        (clock.moved (clock.numerator elapsed),
          .ok (clock.numerator elapsed / nanosPerSecond).toUInt64) := by
  have fits := clock.numerator_lt elapsed
  have first : elapsed.asNanos * clock.rate.get.toNat ≤ clock.numerator elapsed :=
    Nat.le_add_right _ _
  have remainder : clock.numerator elapsed % nanosPerSecond < nanosPerSecond :=
    Nat.mod_lt _ (by decide)
  rw [advance, if_neg (by omega)]
  congr 1
  apply if_neg
  simp only [nanosPerSecond] at remainder ⊢
  omega

theorem advance_eq_ok {ticks : UInt64} :
    advance elapsed clock = (next, .ok ticks) ↔ clock.numerator elapsed / nanosPerSecond < 2 ^ 64 ∧
        next = clock.moved (clock.numerator elapsed) ∧
        ticks = (clock.numerator elapsed / nanosPerSecond).toUInt64 := by
  rw [advance_eq]
  split_ifs with overflow
  · simp only [Prod.mk.injEq, reduceCtorEq, and_false, false_iff]
    omega
  · simp only [Prod.mk.injEq, Except.ok.injEq]
    constructor
    · rintro ⟨rfl, rfl⟩
      exact ⟨by omega, rfl, rfl⟩
    · rintro ⟨-, rfl, rfl⟩
      exact ⟨rfl, rfl⟩

/-- A failed advance leaves the clock as it was. -/
theorem unchanged_of_advance_error {error : RtpClockError}
    (failed : advance elapsed clock = (next, .error error)) : next = clock := by
  rw [advance_eq] at failed
  split_ifs at failed with overflow
  · cases failed
    rfl
  · cases failed

/-! ## Conservation

What the clock was given is what it returned in ticks and what it still keeps. -/

/-- A clock that went on to another one by a number of ticks, during a number of
nanoseconds. -/
structure Carried (clock next : RtpClock) (nanos ticks : Nat) : Prop where
  rate_eq : next.rate = clock.rate
  timestamp_eq : next.timestamp.toNat = (clock.timestamp.toNat + ticks) % 2 ^ 32
  conserved :
    ticks * nanosPerSecond + next.fractionalNumerator.toNat =
      clock.rate.get.toNat * nanos + clock.fractionalNumerator.toNat

theorem Carried.refl (clock : RtpClock) : Carried clock clock 0 0 where
  rate_eq := rfl
  timestamp_eq := by
    have bound := clock.timestamp.toNat_lt
    omega
  conserved := by simp

theorem Carried.trans
    {between : RtpClock} {nanos later ticks more : Nat}
    (first : Carried clock between nanos ticks) (second : Carried between next later more) :
    Carried clock next (nanos + later) (ticks + more) where
  rate_eq := second.rate_eq.trans first.rate_eq
  timestamp_eq := by
    rw [second.timestamp_eq, first.timestamp_eq]
    omega
  conserved := by
    have kept := first.conserved
    have spent := second.conserved
    rw [first.rate_eq] at spent
    rw [Nat.add_mul, Nat.mul_add]
    omega

/-- The whole ticks are the quotient by a second and the fraction is the
remainder. -/
theorem Carried.div_mod {nanos ticks : Nat} (carried : Carried clock next nanos ticks) :
    (clock.rate.get.toNat * nanos + clock.fractionalNumerator.toNat) / nanosPerSecond = ticks ∧
      (clock.rate.get.toNat * nanos + clock.fractionalNumerator.toNat) %
        nanosPerSecond = next.fractionalNumerator.toNat := by
  rw [Nat.div_mod_unique (by decide)]
  refine ⟨?_, next.fractional_lt⟩
  rw [← carried.conserved, Nat.mul_comm, Nat.add_comm]

/-- The time that passed determines the clock and its ticks. -/
theorem Carried.unique
    {other : RtpClock} {nanos ticks count : Nat} (carried : Carried clock next nanos ticks)
    (alternative : Carried clock other nanos count) : next = other ∧ ticks = count := by
  obtain ⟨quotient, remainder⟩ := carried.div_mod
  obtain ⟨quotient', remainder'⟩ := alternative.div_mod
  have same : ticks = count := quotient.symm.trans quotient'
  have timestamps : next.timestamp = other.timestamp := by
    apply UInt32.toNat_inj.mp
    rw [carried.timestamp_eq, alternative.timestamp_eq, same]
  have fractions : next.fractionalNumerator = other.fractionalNumerator :=
    UInt32.toNat_inj.mp (remainder.symm.trans remainder')
  have rates : next.rate = other.rate := carried.rate_eq.trans alternative.rate_eq.symm
  cases next
  cases other
  cases timestamps
  cases fractions
  cases rates
  exact ⟨rfl, same⟩

/-- One advance carries its duration. -/
theorem carried_of_advance {ticks : UInt64}
    (advanced : advance elapsed clock = (next, .ok ticks)) :
    Carried clock next elapsed.asNanos ticks.toNat := by
  obtain ⟨fits, rfl, rfl⟩ := advance_eq_ok.mp advanced
  have whole : (clock.numerator elapsed / nanosPerSecond).toUInt64.toNat =
      clock.numerator elapsed / nanosPerSecond := by
    rw [Nat.toUInt64_eq, UInt64.toNat_ofNat', Nat.mod_eq_of_lt fits]
  refine ⟨rfl, ?_, ?_⟩
  · rw [moved, UInt32.toNat_add, UInt64.toNat_toUInt32]
    omega
  · rw [whole, moved, fractional_toNat, Nat.div_add_mod', numerator, Nat.mul_comm]

/-- Nanoseconds in a sequence of durations. -/
def totalNanos (durations : List Duration) : Nat := (durations.map Duration.asNanos).sum

/-- Ticks of a sequence of advances. -/
def totalTicks (ticks : List UInt64) : Nat := (ticks.map UInt64.toNat).sum

/-- A sequence of advances carries all of its durations. -/
theorem carried_of_advanceAll
    {final : RtpClock} {durations : List Duration} {ticks : List UInt64}
    (advanced : advanceAll durations clock = (final, .ok ticks)) :
    Carried clock final (totalNanos durations) (totalTicks ticks) := by
  induction durations generalizing clock ticks with
  | nil =>
    cases advanced
    exact .refl _
  | cons elapsed rest ih =>
    rw [advanceAll] at advanced
    obtain ⟨next, first, one, advanced⟩ := Effect.bind_eq_ok.mp advanced
    obtain ⟨last, later, remaining, returned⟩ := Effect.bind_eq_ok.mp advanced
    cases returned
    exact (carried_of_advance one).trans (ih remaining)

/-- Durations whose ticks fit their type together can be passed one by one. -/
theorem advanceAll_of_fits {durations : List Duration}
    (fits : (clock.rate.get.toNat * totalNanos durations +
      clock.fractionalNumerator.toNat) / nanosPerSecond < 2 ^ 64) :
    ∃ final ticks, advanceAll durations clock = (final, .ok ticks) := by
  induction durations generalizing clock with
  | nil => exact ⟨clock, [], rfl⟩
  | cons elapsed rest ih =>
    have split : totalNanos (elapsed :: rest) = elapsed.asNanos + totalNanos rest := by
      simp [totalNanos]
    rw [split, Nat.mul_add] at fits
    have small : clock.numerator elapsed / nanosPerSecond < 2 ^ 64 := by
      refine Nat.lt_of_le_of_lt (Nat.div_le_div_right ?_) fits
      rw [numerator, Nat.mul_comm]
      omega
    have one := advance_eq_ok.mpr ⟨small, rfl, rfl⟩
    have carried := carried_of_advance one
    -- The kept fraction is part of what the whole sequence carries.
    have remaining : ((clock.moved (clock.numerator elapsed)).rate.get.toNat * totalNanos rest +
          (clock.moved (clock.numerator elapsed)).fractionalNumerator.toNat) /
            nanosPerSecond < 2 ^ 64 := by
      refine Nat.lt_of_le_of_lt (Nat.div_le_div_right ?_) fits
      have conserved := carried.conserved
      rw [carried.rate_eq]
      omega
    obtain ⟨final, later, advanced⟩ := ih remaining
    refine ⟨final, (clock.numerator elapsed / nanosPerSecond).toUInt64 :: later, ?_⟩
    rw [advanceAll]
    exact Effect.bind_eq_ok.mpr ⟨_, _, one, Effect.bind_eq_ok.mpr ⟨_, _, advanced, rfl⟩⟩

/-- The clock is free of drift: the ticks of all advances are the quotient of the
whole elapsed time, the fraction is its remainder, a duration that is passed in
pieces leads to the same clock, and a failed advance changes nothing. -/
theorem advance_driftFree (rate : RtpClockRate) (initialTimestamp : UInt32) :
    (∀ durations final ticks,
      advanceAll durations (.new rate initialTimestamp) = (final, .ok ticks) → totalTicks ticks =
            rate.get.toNat * totalNanos durations / nanosPerSecond ∧
          final.timestamp.toNat = (initialTimestamp.toNat + totalTicks ticks) % 2 ^ 32 ∧
          final.fractionalNumerator.toNat = rate.get.toNat * totalNanos durations % nanosPerSecond ∧
          final.fractionalNumerator.toNat < nanosPerSecond) ∧
      (∀ (clock : RtpClock) elapsed pieces final ticks, totalNanos pieces = elapsed.asNanos →
        advance elapsed clock = (final, .ok ticks) →
          ∃ parts, advanceAll pieces clock = (final, .ok parts) ∧ totalTicks parts = ticks.toNat) ∧
      (∀ (clock : RtpClock) elapsed next error,
        advance elapsed clock = (next, .error error) → next = clock) := by
  refine ⟨?_, ?_, fun clock elapsed next error => unchanged_of_advance_error⟩
  · intro durations final ticks advanced
    have carried := carried_of_advanceAll advanced
    obtain ⟨quotient, remainder⟩ := carried.div_mod
    have fresh : (new rate initialTimestamp).fractionalNumerator.toNat = 0 := rfl
    rw [fresh, Nat.add_zero] at quotient remainder
    exact ⟨quotient.symm, carried.timestamp_eq, remainder.symm, final.fractional_lt⟩
  · intro clock elapsed pieces final ticks sum advanced
    have carried := carried_of_advance advanced
    have fits : (clock.rate.get.toNat * totalNanos pieces +
        clock.fractionalNumerator.toNat) / nanosPerSecond < 2 ^ 64 := by
      rw [sum, carried.div_mod.1]
      exact ticks.toNat_lt
    obtain ⟨other, parts, passed⟩ := advanceAll_of_fits fits
    have alternative := carried_of_advanceAll passed
    rw [sum] at alternative
    obtain ⟨rfl, same⟩ := carried.unique alternative
    exact ⟨parts, passed, same.symm⟩

/-- Three milliseconds at 44100 ticks a second are 132 ticks and three tenths, at
once or one by one. -/
theorem advance_driftFree_millis :
    let clock := RtpClock.new ⟨44100, by decide, by decide⟩ 4294967295
    let final := (advance (.fromMillis 3) clock).1
    final.timestamp.toNat = (4294967295 + totalTicks [132]) % 2 ^ 32 ∧
      final.fractionalNumerator.toNat = 44100 * 3000000 % nanosPerSecond ∧
      (∃ parts, advanceAll [.fromMillis 1, .fromMillis 1, .fromMillis 1] clock =
        (final, .ok parts) ∧ totalTicks parts = 132) ∧
      (advance .max (.new ⟨1000000000, by decide, by decide⟩ 0)).1 =
        .new ⟨1000000000, by decide, by decide⟩ 0 := by
  intro clock final
  obtain ⟨exact, split, -⟩ := advance_driftFree ⟨44100, by decide, by decide⟩ 4294967295
  obtain ⟨-, timestamp, fraction, -⟩ := exact [.fromMillis 3] final [132] (by decide +kernel)
  obtain ⟨-, -, unchanged⟩ := advance_driftFree ⟨1000000000, by decide, by decide⟩ 0
  refine ⟨timestamp, fraction, ?_, unchanged _ .max _ .tickCountOverflow (by decide +kernel)⟩
  exact split clock (.fromMillis 3) [.fromMillis 1, .fromMillis 1, .fromMillis 1] final
    132 (by decide +kernel) (by decide +kernel)

end RtpClock
end Rtp
end LiveAISIP
