import PalmyProtocol.Library.Compounding
import PalmyProtocol.Math.MathUtils

set_option autoImplicit false

namespace PalmyProtocol

open Checked Rounding

namespace MathUtils

variable {rate last now linear compounded : Nat}

theorem calculateLinearInterest_at (rate now : Nat) :
    calculateLinearInterest rate now now = .ok RAY := by
  simp only [calculateLinearInterest, bind_eq_ok, SafeMath.sub_eq_ok, SafeMath.mul_eq_ok,
    SafeMath.add_eq_ok]
  refine ⟨0, ⟨le_rfl, Nat.sub_self now⟩, 0, ⟨Nat.zero_le _, Nat.mul_zero rate⟩, ?_, ?_⟩
  · decide
  · rw [Nat.zero_div, Nat.zero_add]

theorem calculateCompoundedInterest_at (rate now : Nat) :
    calculateCompoundedInterest rate now now = .ok RAY := by
  simp only [calculateCompoundedInterest, bind_eq_ok, SafeMath.sub_eq_ok]
  exact ⟨0, ⟨le_rfl, Nat.sub_self now⟩, rfl⟩

/-- Both factors start at one ray and grow with the rate and with time, and what suppliers earn is
covered by what borrowers owe but for a unit a second. -/
theorem interest_factors_ordered (earned : calculateLinearInterest rate last now = .ok linear)
    (owed : calculateCompoundedInterest rate last now = .ok compounded) :
    RAY ≤ linear ∧ RAY ≤ compounded ∧ linear ≤ compounded + (now - last) ∧
      (∀ time, calculateLinearInterest rate time time = .ok RAY ∧
        calculateCompoundedInterest rate time time = .ok RAY) ∧
      ∀ rate' last' now', rate ≤ rate' → now - last ≤ now' - last' →
        (∀ linear', calculateLinearInterest rate' last' now' = .ok linear' → linear ≤ linear') ∧
        ∀ compounded', calculateCompoundedInterest rate' last' now' = .ok compounded' →
          compounded ≤ compounded' := by
  obtain ⟨_, rfl⟩ := calculateLinearInterest_ok earned
  obtain ⟨_, rfl⟩ := calculateCompoundedInterest_ok owed
  refine ⟨RAY_le_linearInterest _ _, RAY_le_compoundedInterest _ _, linearInterest_le _ _,
    fun time => ⟨calculateLinearInterest_at rate time, calculateCompoundedInterest_at rate time⟩, ?_⟩
  intro rate' last' now' rates times
  constructor
  · intro linear' later
    obtain ⟨_, rfl⟩ := calculateLinearInterest_ok later
    exact linearInterest_mono rates times
  · intro compounded' later
    obtain ⟨_, rfl⟩ := calculateCompoundedInterest_ok later
    exact compoundedInterest_mono rates times

theorem interest_factors_ordered_hour : ∃ linear compounded,
    calculateLinearInterest (RAY / 20) 1 3601 = .ok linear ∧
      calculateCompoundedInterest (RAY / 20) 1 3601 = .ok compounded ∧
      linear ≤ compounded + 3600 := by
  have earned : yields (calculateLinearInterest (RAY / 20) 1 3601) (fun _ => true) := by decide
  have owed : yields (calculateCompoundedInterest (RAY / 20) 1 3601) (fun _ => true) := by decide
  obtain ⟨linear, earned, _⟩ := yields_iff.1 earned
  obtain ⟨compounded, owed, _⟩ := yields_iff.1 owed
  exact ⟨linear, compounded, earned, owed, (interest_factors_ordered earned owed).2.2.1⟩

def ratePerSecond (rate : Nat) : Nat := rate / SECONDS_PER_YEAR

def basePowerTwo (rate : Nat) : Nat := divHalfUp (ratePerSecond rate * ratePerSecond rate) RAY

def basePowerThree (rate : Nat) : Nat := divHalfUp (basePowerTwo rate * ratePerSecond rate) RAY

theorem pairs_eq (n : Nat) : n * (n - 1) = 2 * n.choose 2 := by
  have falling := n.descFactorial_eq_factorial_mul_choose 2
  simpa [Nat.descFactorial, Nat.mul_comm] using falling

theorem triples_eq (n : Nat) : n * (n - 1) * (n - 2) = 6 * n.choose 3 := by
  have falling := n.descFactorial_eq_factorial_mul_choose 3
  have six : Nat.factorial 3 = 6 := rfl
  rw [six] at falling
  rw [← falling]
  simp only [Nat.descFactorial, Nat.sub_zero, Nat.mul_one]
  ring

-- The halves and sixths of the source are exact.
theorem compoundedInterest_cut (rate elapsed : Nat) :
    compoundedInterest rate elapsed = Compounding.cut RAY (ratePerSecond rate) (basePowerTwo rate)
      (basePowerThree rate) elapsed := by
  have second : 2 * elapsed.choose 2 * basePowerTwo rate / 2 =
      elapsed.choose 2 * basePowerTwo rate := by
    rw [Nat.mul_assoc, Nat.mul_div_cancel_left _ (by decide)]
  have third : 6 * elapsed.choose 3 * basePowerThree rate / 6 =
      elapsed.choose 3 * basePowerThree rate := by
    rw [Nat.mul_assoc, Nat.mul_div_cancel_left _ (by decide)]
  rw [Compounding.cut, ← second, ← third, ← pairs_eq, ← triples_eq, Nat.mul_comm elapsed]
  rfl

def SquareRoundsDown (rate : Nat) : Prop :=
  2 * (ratePerSecond rate * ratePerSecond rate % RAY) < RAY

def CubeRoundsDown (rate : Nat) : Prop :=
  2 * (ratePerSecond rate * ratePerSecond rate / RAY * ratePerSecond rate % RAY) < RAY

instance (rate : Nat) : Decidable (SquareRoundsDown rate) := inferInstanceAs (Decidable (_ < _))

instance (rate : Nat) : Decidable (CubeRoundsDown rate) := inferInstanceAs (Decidable (_ < _))

-- The first term of the series that is dropped is worth the half rays of the two before it.
def Outgrown (rate elapsed : Nat) : Prop :=
  elapsed.choose 2 * RAY ^ 3 + elapsed.choose 3 * RAY ^ 2 * (RAY + ratePerSecond rate) ≤
    2 * elapsed.choose 4 * ratePerSecond rate ^ 4

-- A second uses no power and two seconds no cube.
def RoundingAbsorbed (rate elapsed : Nat) : Prop :=
  elapsed = 1 ∨ SquareRoundsDown rate ∧ (elapsed = 2 ∨ CubeRoundsDown rate) ∨ Outgrown rate elapsed

theorem basePowerTwo_below_iff (rate : Nat) :
    RAY * basePowerTwo rate ≤ ratePerSecond rate ^ 2 ↔ SquareRoundsDown rate := by
  rw [Nat.pow_two]
  exact mul_divHalfUp_le_iff RAY_pos

theorem basePowerThree_below (square : SquareRoundsDown rate) (cube : CubeRoundsDown rate) :
    RAY ^ 2 * basePowerThree rate ≤ ratePerSecond rate ^ 3 := by
  have floored : basePowerTwo rate = ratePerSecond rate * ratePerSecond rate / RAY :=
    divHalfUp_eq_div RAY_pos square
  have squared := (basePowerTwo_below_iff rate).2 square
  rw [CubeRoundsDown, ← floored] at cube
  have cubed : RAY * basePowerThree rate ≤ basePowerTwo rate * ratePerSecond rate :=
    (mul_divHalfUp_le_iff RAY_pos).2 cube
  calc RAY ^ 2 * basePowerThree rate = RAY * (RAY * basePowerThree rate) := by ring
    _ ≤ RAY * (basePowerTwo rate * ratePerSecond rate) := Nat.mul_le_mul_left RAY cubed
    _ = RAY * basePowerTwo rate * ratePerSecond rate := by ring
    _ ≤ ratePerSecond rate ^ 2 * ratePerSecond rate := Nat.mul_le_mul_right _ squared
    _ = ratePerSecond rate ^ 3 := by ring

theorem excess_le_of_absorbed {elapsed : Nat} (positive : 0 < elapsed)
    (absorbed : RoundingAbsorbed rate elapsed) :
    Compounding.excess RAY (ratePerSecond rate) (basePowerTwo rate) (basePowerThree rate) elapsed ≤
      Compounding.leftOut RAY (ratePerSecond rate) elapsed := by
  rcases absorbed with rfl | ⟨square, rfl | cube⟩ | outgrown
  · refine le_trans (Compounding.excess_nonpos_early (by decide) ?_) (Nat.cast_nonneg _)
    exact fun two => absurd two (by decide)
  · refine le_trans (Compounding.excess_nonpos_early (by decide) ?_) (Nat.cast_nonneg _)
    exact fun _ => (basePowerTwo_below_iff rate).2 square
  · refine le_trans (Compounding.excess_nonpos ?_ (basePowerThree_below square cube))
      (Nat.cast_nonneg _)
    exact (basePowerTwo_below_iff rate).2 square
  · have halved : 2 * (RAY * basePowerTwo rate) ≤ 2 * ratePerSecond rate ^ 2 + RAY := by
      rw [Nat.pow_two]
      exact divHalfUp_upper RAY_pos
    have halved' : 2 * (RAY * basePowerThree rate) ≤
        2 * (basePowerTwo rate * ratePerSecond rate) + RAY := divHalfUp_upper RAY_pos
    by_cases late : 4 ≤ elapsed
    · exact Compounding.excess_le_leftOut halved halved' outgrown late
    · -- there is no fourth term before the fourth second, and so nothing to be absorbed
      rw [Outgrown, Nat.choose_eq_zero_of_lt (show elapsed < 4 by omega)] at outgrown
      have none : elapsed.choose 2 = 0 := by
        have unit : 0 < RAY ^ 3 := Nat.pow_pos RAY_pos
        rcases Nat.eq_zero_or_pos (elapsed.choose 2) with none | some
        · exact none
        · have product := Nat.mul_pos some unit
          omega
      have early : elapsed < 2 := by
        by_contra second
        have some := Nat.choose_pos (Nat.not_lt.1 second)
        omega
      refine le_trans (Compounding.excess_nonpos_early (by omega) ?_) (Nat.cast_nonneg _)
      omega

-- The square is rounded up and the cube is not below its exact value, so early that the terms that
-- are dropped are still behind.
structure RoundingShows (rate elapsed : Nat) : Prop where
  late : 2 ≤ elapsed
  slow : elapsed * ratePerSecond rate ≤ RAY
  square : ¬SquareRoundsDown rate
  cube : ratePerSecond rate ^ 3 ≤ RAY ^ 2 * basePowerThree rate
  early : 5 * elapsed.choose 4 * ratePerSecond rate ^ 4 < 4 * elapsed.choose 2 * RAY ^ 2 *
    (RAY * basePowerTwo rate - ratePerSecond rate ^ 2)

/-- Nobody is overcharged where the roundings are absorbed, for two seconds only there, and
everybody is where they show. -/
theorem compounding_undercharges {c : Nat} (past : last < now)
    (computed : calculateCompoundedInterest rate last now = .ok c) :
    (RoundingAbsorbed rate (now - last) →
        c * RAY ^ (now - last - 1) ≤ (RAY + ratePerSecond rate) ^ (now - last)) ∧
      (now - last ≤ 2 →
        c * RAY ^ (now - last - 1) ≤ (RAY + ratePerSecond rate) ^ (now - last) →
          RoundingAbsorbed rate (now - last)) ∧
      (RoundingShows rate (now - last) →
        (RAY + ratePerSecond rate) ^ (now - last) < c * RAY ^ (now - last - 1)) := by
  obtain ⟨_, rfl⟩ := calculateCompoundedInterest_ok computed
  have elapsed : 0 < now - last := Nat.sub_pos_of_lt past
  rw [compoundedInterest_cut]
  have exact := Compounding.cut_le_iff RAY (ratePerSecond rate) (basePowerTwo rate)
    (basePowerThree rate) elapsed
  refine ⟨fun absorbed => exact.2 (excess_le_of_absorbed elapsed absorbed), ?_, ?_⟩
  · intro early below
    obtain one | two : now - last = 1 ∨ now - last = 2 := by omega
    · exact .inl one
    · refine .inr (.inl ⟨?_, .inl two⟩)
      rw [← basePowerTwo_below_iff, ← Nat.not_lt]
      intro up
      rw [exact, two] at below
      exact absurd (Compounding.leftOut_lt_excess_two up) (not_lt.2 below)
  · intro shows
    have square := shows.square
    rw [← basePowerTwo_below_iff, Nat.not_le] at square
    rw [← Nat.not_le, exact, not_le]
    exact Compounding.leftOut_lt_excess RAY_pos shows.slow square shows.cube shows.late shows.early

-- Three percent a year, for an hour.
theorem compounding_overcharges_hour :
    ¬∀ rate last now c, last < now → calculateCompoundedInterest rate last now = .ok c →
      c * RAY ^ (now - last - 1) ≤ (RAY + rate / SECONDS_PER_YEAR) ^ (now - last) := by
  intro every
  have outcome : yields (calculateCompoundedInterest (RAY / 100 * 3) 1 3601) (fun c =>
      ¬c * RAY ^ (3601 - 1 - 1) ≤
        (RAY + RAY / 100 * 3 / SECONDS_PER_YEAR) ^ (3601 - 1)) := by
    decide +kernel
  obtain ⟨c, computed, above⟩ := yields_iff.1 outcome
  exact of_decide_eq_true above (every (RAY / 100 * 3) 1 3601 c (by decide) computed)

-- Two percent for an hour, where both powers round down, a hundred percent for a year, and three
-- percent for an hour, where both round up.
theorem compounding_undercharges_waiting : ∃ c c' c'',
    calculateCompoundedInterest (RAY / 50) 1 3601 = .ok c ∧
      c * RAY ^ (3601 - 1 - 1) ≤ (RAY + ratePerSecond (RAY / 50)) ^ (3601 - 1) ∧
      calculateCompoundedInterest RAY 1 31536001 = .ok c' ∧
      c' * RAY ^ (31536001 - 1 - 1) ≤ (RAY + ratePerSecond RAY) ^ (31536001 - 1) ∧
      calculateCompoundedInterest (RAY / 100 * 3) 1 3601 = .ok c'' ∧
      (RAY + ratePerSecond (RAY / 100 * 3)) ^ (3601 - 1) < c'' * RAY ^ (3601 - 1 - 1) := by
  have hour : yields (calculateCompoundedInterest (RAY / 50) 1 3601) (fun _ => true) := by
    decide +kernel
  have year : yields (calculateCompoundedInterest RAY 1 31536001) (fun _ => true) := by
    decide +kernel
  have dearer : yields (calculateCompoundedInterest (RAY / 100 * 3) 1 3601) (fun _ => true) := by
    decide +kernel
  have down : SquareRoundsDown (RAY / 50) ∧ CubeRoundsDown (RAY / 50) := by decide +kernel
  have outgrown : Outgrown RAY (31536001 - 1) := by
    simp only [Outgrown, Nat.choose_eq_descFactorial_div_factorial]
    decide +kernel
  have shows : RoundingShows (RAY / 100 * 3) (3601 - 1) := by
    refine ⟨by decide, by decide +kernel, by decide +kernel, by decide +kernel, ?_⟩
    simp only [Nat.choose_eq_descFactorial_div_factorial]
    decide +kernel
  obtain ⟨c, computed, _⟩ := yields_iff.1 hour
  obtain ⟨c', computed', _⟩ := yields_iff.1 year
  obtain ⟨c'', computed'', _⟩ := yields_iff.1 dearer
  have absorbed : RoundingAbsorbed (RAY / 50) (3601 - 1) := .inr (.inl ⟨down.1, .inr down.2⟩)
  exact ⟨c, c', c'', computed, (compounding_undercharges (by decide) computed).1 absorbed,
    computed', (compounding_undercharges (by decide) computed').1 (.inr (.inr outgrown)),
    computed'', (compounding_undercharges (by decide) computed'').2.2 shows⟩

end MathUtils

end PalmyProtocol
