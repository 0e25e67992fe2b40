import PalmyProtocol.Math.WadRayMath
import Mathlib.Tactic.GCongr

set_option autoImplicit false

namespace PalmyProtocol

open Checked Rounding

namespace MathUtils

-- `365 days`: leap years are ignored.
def SECONDS_PER_YEAR : Nat := 31536000

def calculateLinearInterest (rate lastUpdateTimestamp currentTimestamp : Nat) : Result Nat := do
  let timeDifference ← SafeMath.sub currentTimestamp lastUpdateTimestamp
  let accrued ← SafeMath.mul rate timeDifference
  SafeMath.add (accrued / SECONDS_PER_YEAR) RAY

def calculateCompoundedInterest (rate lastUpdateTimestamp currentTimestamp : Nat) :
    Result Nat := do
  let exp ← SafeMath.sub currentTimestamp lastUpdateTimestamp
  if exp = 0 then pure RAY else do
    let expMinusOne := exp - 1
    let expMinusTwo := if 2 < exp then exp - 2 else 0
    let ratePerSecond := rate / SECONDS_PER_YEAR
    let basePowerTwo ← rayMul ratePerSecond ratePerSecond
    let basePowerThree ← rayMul basePowerTwo ratePerSecond
    let pairs ← SafeMath.mul exp expMinusOne
    let secondProduct ← SafeMath.mul pairs basePowerTwo
    let secondTerm := secondProduct / 2
    let triples ← SafeMath.mul pairs expMinusTwo
    let thirdProduct ← SafeMath.mul triples basePowerThree
    let thirdTerm := thirdProduct / 6
    let firstTerm ← SafeMath.mul ratePerSecond exp
    let firstOrder ← SafeMath.add RAY firstTerm
    let secondOrder ← SafeMath.add firstOrder secondTerm
    SafeMath.add secondOrder thirdTerm

def linearInterest (rate elapsed : Nat) : Nat := rate * elapsed / SECONDS_PER_YEAR + RAY

def compoundedInterest (rate elapsed : Nat) : Nat :=
  let perSecond := rate / SECONDS_PER_YEAR
  let squared := divHalfUp (perSecond * perSecond) RAY
  let cubed := divHalfUp (squared * perSecond) RAY
  RAY + perSecond * elapsed + elapsed * (elapsed - 1) * squared / 2 +
    elapsed * (elapsed - 1) * (elapsed - 2) * cubed / 6

variable {rate last now c : Nat}

theorem calculateLinearInterest_ok (computed : calculateLinearInterest rate last now = .ok c) :
    last ≤ now ∧ c = linearInterest rate (now - last) := by
  simp only [calculateLinearInterest, bind_eq_ok, SafeMath.sub_eq_ok, SafeMath.mul_eq_ok,
    SafeMath.add_eq_ok] at computed
  obtain ⟨_, ⟨order, rfl⟩, _, ⟨_, rfl⟩, _, rfl⟩ := computed
  exact ⟨order, rfl⟩

theorem calculateCompoundedInterest_ok
    (computed : calculateCompoundedInterest rate last now = .ok c) :
    last ≤ now ∧ c = compoundedInterest rate (now - last) := by
  simp only [calculateCompoundedInterest, bind_eq_ok, SafeMath.sub_eq_ok, ite_eq_ok, pure_eq_ok,
    rayMul_eq_ok, SafeMath.mul_eq_ok, SafeMath.add_eq_ok] at computed
  obtain ⟨exp, ⟨order, rfl⟩, ⟨zero, rfl⟩ | ⟨_, computed⟩⟩ := computed
  · exact ⟨order, by simp [compoundedInterest, zero]⟩
  · obtain ⟨_, ⟨_, rfl⟩, _, ⟨_, rfl⟩, _, ⟨_, rfl⟩, _, ⟨_, rfl⟩, _, ⟨_, rfl⟩, _, ⟨_, rfl⟩, _,
      ⟨_, rfl⟩, _, ⟨_, rfl⟩, _, ⟨_, rfl⟩, _, rfl⟩ := computed
    have clamped : (if 2 < now - last then now - last - 2 else 0) = now - last - 2 := by
      split_ifs <;> omega
    rw [clamped]
    exact ⟨order, rfl⟩

@[simp]
theorem linearInterest_zero (rate : Nat) : linearInterest rate 0 = RAY := by
  simp [linearInterest]

@[simp]
theorem compoundedInterest_zero (rate : Nat) : compoundedInterest rate 0 = RAY := by
  simp [compoundedInterest]

theorem RAY_le_linearInterest (rate elapsed : Nat) : RAY ≤ linearInterest rate elapsed :=
  Nat.le_add_left _ _

theorem RAY_le_compoundedInterest (rate elapsed : Nat) : RAY ≤ compoundedInterest rate elapsed := by
  simp only [compoundedInterest, Nat.add_assoc]
  exact Nat.le_add_right _ _

@[simp]
theorem linearInterest_rate_zero (elapsed : Nat) : linearInterest 0 elapsed = RAY := by
  simp [linearInterest]

@[simp]
theorem compoundedInterest_rate_zero (elapsed : Nat) : compoundedInterest 0 elapsed = RAY := by
  simp [compoundedInterest]

variable {rate' elapsed elapsed' : Nat}

theorem linearInterest_mono (rates : rate ≤ rate') (times : elapsed ≤ elapsed') :
    linearInterest rate elapsed ≤ linearInterest rate' elapsed' :=
  Nat.add_le_add_right (Nat.div_le_div_right (Nat.mul_le_mul rates times)) RAY

theorem compoundedInterest_mono (rates : rate ≤ rate') (times : elapsed ≤ elapsed') :
    compoundedInterest rate elapsed ≤ compoundedInterest rate' elapsed' := by
  have perSecond : rate / SECONDS_PER_YEAR ≤ rate' / SECONDS_PER_YEAR := Nat.div_le_div_right rates
  have squared := rayMul_mono perSecond perSecond
  have cubed := rayMul_mono squared perSecond
  have one : elapsed - 1 ≤ elapsed' - 1 := Nat.sub_le_sub_right times 1
  have two : elapsed - 2 ≤ elapsed' - 2 := Nat.sub_le_sub_right times 2
  simp only [compoundedInterest]
  gcongr

-- The compounded factor floors the rate of a second, the linear one the interest of all of them.
theorem linearInterest_le (rate elapsed : Nat) :
    linearInterest rate elapsed ≤ compoundedInterest rate elapsed + elapsed := by
  have floor := Nat.lt_mul_div_succ rate (show 0 < SECONDS_PER_YEAR by decide)
  have linear : rate * elapsed / SECONDS_PER_YEAR ≤
      rate / SECONDS_PER_YEAR * elapsed + elapsed := by
    apply Nat.div_le_of_le_mul
    calc rate * elapsed ≤ SECONDS_PER_YEAR * (rate / SECONDS_PER_YEAR + 1) * elapsed :=
          Nat.mul_le_mul_right elapsed (Nat.le_of_lt floor)
      _ = SECONDS_PER_YEAR * (rate / SECONDS_PER_YEAR * elapsed + elapsed) := by ring
  simp only [linearInterest, compoundedInterest]
  omega

theorem compoundedInterest_eq_RAY (rate elapsed : Nat) :
    compoundedInterest rate elapsed = RAY ↔ elapsed = 0 ∨ rate < SECONDS_PER_YEAR := by
  constructor
  · intro flat
    by_contra moving
    push Not at moving
    have step : 0 < rate / SECONDS_PER_YEAR * elapsed :=
      Nat.mul_pos (Nat.div_pos moving.2 (by decide)) (Nat.pos_of_ne_zero moving.1)
    simp only [compoundedInterest] at flat
    omega
  · rintro (rfl | slow)
    · simp
    · simp [compoundedInterest, Nat.div_eq_of_lt slow]

end MathUtils

end PalmyProtocol
