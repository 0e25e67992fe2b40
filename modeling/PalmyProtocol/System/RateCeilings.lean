import PalmyProtocol.Library.Growth
import PalmyProtocol.Pool.InterestRates
import PalmyProtocol.Proofs.InterestFactors
import PalmyProtocol.System.Settings

set_option autoImplicit false

namespace PalmyProtocol

open Checked Rounding MathUtils

namespace MathUtils

def perSecond (rate : Nat) : ℚ := rate / (SECONDS_PER_YEAR * RAY) + 21 / 10 ^ 11

theorem ratePerSecond_le (rate : Nat) :
    (ratePerSecond rate : ℚ) / RAY + 21 / 10 ^ 11 ≤ perSecond rate := by
  have floor : (ratePerSecond rate : ℚ) * SECONDS_PER_YEAR ≤ rate := by
    exact_mod_cast Nat.div_mul_le_self rate SECONDS_PER_YEAR
  have unit : (0 : ℚ) < RAY := by norm_num [RAY]
  have year : (0 : ℚ) < SECONDS_PER_YEAR := by norm_num [SECONDS_PER_YEAR]
  have share : (ratePerSecond rate : ℚ) / RAY ≤ rate / (SECONDS_PER_YEAR * RAY) := by
    rw [← div_div]
    gcongr
    rwa [le_div_iff₀ year]
  rw [perSecond]
  linarith

variable {rate : Nat}

-- Below a square of half a ray the second power rounds to nothing; above, the slack covers a half.
theorem basePowerTwo_le (rate : Nat) :
    (basePowerTwo rate : ℚ) ≤ RAY * (ratePerSecond rate / RAY + 21 / 10 ^ 11) ^ 2 := by
  have upper : 2 * (RAY * basePowerTwo rate) ≤
      2 * (ratePerSecond rate * ratePerSecond rate) + RAY := divHalfUp_upper RAY_pos
  generalize basePowerTwo rate = squared at *
  generalize ratePerSecond rate = r at *
  have unit : (RAY : ℚ) = 10 ^ 27 := by norm_num [RAY]
  rcases Nat.eq_zero_or_pos squared with rfl | some
  · rw [Nat.cast_zero]
    positivity
  · have one : (1 : ℚ) ≤ squared := by exact_mod_cast some
    have upper : 2 * ((RAY : ℚ) * squared) ≤ 2 * (r * r) + RAY := by exact_mod_cast upper
    rw [unit] at upper ⊢
    have large : (10 : ℚ) ^ 13 ≤ r := by
      by_contra small
      push Not at small
      have product : (r : ℚ) * r ≤ 10 ^ 13 * 10 ^ 13 := by gcongr
      linarith
    have expanded : (10 : ℚ) ^ 27 * (r / 10 ^ 27 + 21 / 10 ^ 11) ^ 2 =
        r * r / 10 ^ 27 + r * (42 / 10 ^ 11) + 441 * 10 ^ 5 := by ring
    rw [expanded]
    linarith

-- The third power rounds up to one from the rate that the slack is chosen for.
theorem basePowerThree_le (rate : Nat) :
    (basePowerThree rate : ℚ) ≤ RAY * (ratePerSecond rate / RAY + 21 / 10 ^ 11) ^ 3 := by
  have upper : 2 * (RAY * basePowerTwo rate) ≤
      2 * (ratePerSecond rate * ratePerSecond rate) + RAY := divHalfUp_upper RAY_pos
  have upper' : 2 * (RAY * basePowerThree rate) ≤
      2 * (basePowerTwo rate * ratePerSecond rate) + RAY := divHalfUp_upper RAY_pos
  generalize basePowerThree rate = cubed at *
  generalize basePowerTwo rate = squared at *
  generalize ratePerSecond rate = r at *
  have unit : (RAY : ℚ) = 10 ^ 27 := by norm_num [RAY]
  have upper : 2 * ((RAY : ℚ) * squared) ≤ 2 * (r * r) + RAY := by exact_mod_cast upper
  have upper' : 2 * ((RAY : ℚ) * cubed) ≤ 2 * (squared * r) + RAY := by exact_mod_cast upper'
  rw [unit] at upper upper' ⊢
  have r_nonneg : (0 : ℚ) ≤ r := Nat.cast_nonneg r
  have both : 2 * 10 ^ 54 * (cubed : ℚ) ≤ 2 * (r : ℚ) ^ 3 + 10 ^ 27 * r + 10 ^ 54 := by
    have scaled := mul_le_mul_of_nonneg_right upper r_nonneg
    linarith
  have bounded : ∀ b : ℚ, 0 ≤ b → (r : ℚ) < b → (r : ℚ) ^ 3 ≤ b ^ 3 := by
    intro b _ below
    gcongr
  obtain rfl | rfl | more : cubed = 0 ∨ cubed = 1 ∨ 2 ≤ cubed := by omega
  · rw [Nat.cast_zero]
    positivity
  · have large : (79 : ℚ) * 10 ^ 16 ≤ r := by
      by_contra small
      push Not at small
      have cube := bounded _ (by norm_num) small
      norm_num at both cube
      linarith
    have ninth : (1 : ℚ) / 10 ^ 9 ≤ r / 10 ^ 27 + 21 / 10 ^ 11 := by
      have share : (79 : ℚ) * 10 ^ 16 / 10 ^ 27 ≤ r / 10 ^ 27 := by gcongr
      linarith
    calc ((1 : Nat) : ℚ) = 10 ^ 27 * (1 / 10 ^ 9) ^ 3 := by norm_num
      _ ≤ 10 ^ 27 * (r / 10 ^ 27 + 21 / 10 ^ 11) ^ 3 := by gcongr
  · have two : (2 : ℚ) ≤ cubed := by exact_mod_cast more
    have large : (114 : ℚ) * 10 ^ 16 ≤ r := by
      by_contra small
      push Not at small
      have cube := bounded _ (by norm_num) small
      norm_num at both cube
      linarith
    have square := mul_le_mul_of_nonneg_right large r_nonneg
    have expanded : (10 : ℚ) ^ 27 * (r / 10 ^ 27 + 21 / 10 ^ 11) ^ 3 =
        (r ^ 3 + 63 * 10 ^ 16 * (r * r) + 1323 * 10 ^ 32 * r + 9261 * 10 ^ 48) / 10 ^ 54 := by ring
    rw [expanded, le_div_iff₀ (by norm_num)]
    linarith

theorem compoundedInterest_le_pow (rate elapsed : Nat) :
    (compoundedInterest rate elapsed : ℚ) ≤ RAY * (1 + perSecond rate) ^ elapsed := by
  rw [compoundedInterest_cut]
  have slack := ratePerSecond_le rate
  have nonneg : (0 : ℚ) ≤ ratePerSecond rate / RAY := by positivity
  have unit : (0 : ℚ) < RAY := by norm_num [RAY]
  apply Growth.cut_le_pow
  · linarith
  · rw [← div_le_iff₀' unit]
    linarith
  · refine le_trans (basePowerTwo_le rate) ?_
    gcongr
  · refine le_trans (basePowerThree_le rate) ?_
    gcongr

end MathUtils

namespace DefaultReserveInterestRateStrategy

variable {strategy : DefaultReserveInterestRateStrategy} {top max : Nat}

def CappedAt (strategy : DefaultReserveInterestRateStrategy) (top : Nat) : Prop :=
  ∀ utilization ≤ RAY, strategy.variableRate utilization ≤ top

-- What the source calls the maximal rate can be missed by the rounding of the first slope.
theorem cappedAt_of_max (positive : 0 < strategy.OPTIMAL_UTILIZATION_RATE)
    (computed : strategy.getMaxVariableBorrowRate = .ok max) :
    strategy.CappedAt (max + (RAY + strategy.OPTIMAL_UTILIZATION_RATE) /
      (2 * strategy.OPTIMAL_UTILIZATION_RATE)) := by
  simp only [getMaxVariableBorrowRate, bind_eq_ok, SafeMath.add_eq_ok] at computed
  obtain ⟨_, ⟨_, rfl⟩, _, rfl⟩ := computed
  intro utilization whole
  by_cases above : strategy.OPTIMAL_UTILIZATION_RATE < utilization
  · exact le_trans (variableRate_le above whole) (Nat.le_add_right _ _)
  · have slope := variableSlope_le positive (Nat.le_of_not_lt above)
    rw [variableRate, if_neg above]
    omega

end DefaultReserveInterestRateStrategy

namespace Reserve

variable {env : Env} {reserve middle after : Reserve} {top now : Nat}

structure CappedAt (top : Nat) (reserve : Reserve) : Prop where
  rate : reserve.currentVariableBorrowRate ≤ top
  strategy : ∀ strategy, reserve.interestRateStrategyAddress = some strategy →
    strategy.CappedAt top

theorem Operation.rate_le (operation : Reserve.Operation env reserve after)
    (capped : CappedAt top reserve) : after.currentVariableBorrowRate ≤ top := by
  cases operation with
  | rate computed =>
      obtain ⟨strategy, _, _, _, run⟩ := updateInterestRates_ok computed
      obtain ⟨_, rates⟩ :=
        DefaultReserveInterestRateStrategy.calculateInterestRatesAfter_ok run.rates
      obtain ⟨_, _, rates⟩ := DefaultReserveInterestRateStrategy.calculateInterestRates_ok rates
      rw [run.result]
      rw [rates.floating]
      exact capped.strategy strategy run.chosen _
        (DefaultReserveInterestRateStrategy.utilizationRate_le _ _)
  | accrue computed =>
      obtain ⟨_, _, _, run⟩ := updateState_ok computed
      rw [run.result]
      exact capped.rate
  | income computed =>
      obtain ⟨_, _, _, rfl⟩ := ReserveData.cumulateToLiquidityIndex_ok computed
      exact capped.rate
  | fund computed =>
      obtain ⟨_, _, rfl⟩ := transferUnderlyingFrom_ok computed
      exact capped.rate
  | release computed =>
      obtain ⟨_, _, _, rfl⟩ := transferUnderlyingTo_ok computed
      exact capped.rate
  | mintLToken computed =>
      obtain ⟨_, _, rfl⟩ := mintLToken_ok computed
      exact capped.rate
  | burnLToken computed =>
      obtain ⟨_, _, _, _, rfl⟩ := burnLToken_ok computed
      exact capped.rate
  | mintStableDebt _ computed =>
      obtain ⟨_, _, rfl⟩ := mintStableDebt_ok computed
      exact capped.rate
  | burnStableDebt _ computed =>
      obtain ⟨_, _, rfl⟩ := burnStableDebt_ok computed
      exact capped.rate
  | mintVariableDebt _ computed =>
      obtain ⟨_, _, rfl⟩ := mintVariableDebt_ok computed
      exact capped.rate
  | burnVariableDebt _ computed =>
      obtain ⟨_, _, rfl⟩ := burnVariableDebt_ok computed
      exact capped.rate
  | moveLTokens | allow | delegateStable | delegateVariable => exact capped.rate

theorem CappedAt.operation (capped : CappedAt top reserve)
    (operation : Reserve.Operation env reserve after) : CappedAt top after where
  rate := operation.rate_le capped
  strategy := by
    rw [operation.settings.strategy]
    exact capped.strategy

def Grown (top now : Nat) (reserve after : Reserve) : Prop :=
  (after.lastUpdateTimestamp = reserve.lastUpdateTimestamp ∧
      after.variableBorrowIndex = reserve.variableBorrowIndex) ∨
    (after.lastUpdateTimestamp = now ∧ after.variableBorrowIndex ≤
      divHalfUp (compoundedInterest top (now - reserve.lastUpdateTimestamp) *
        reserve.variableBorrowIndex) RAY)

namespace Grown

theorem refl (reserve : Reserve) : Grown top now reserve reserve := .inl ⟨rfl, rfl⟩

theorem of_data (same : after.toReserveData = reserve.toReserveData) :
    Grown top now reserve after := by
  rw [Grown, same]
  exact .inl ⟨rfl, rfl⟩

theorem trans (first : Grown top now reserve middle) (second : Grown top now middle after) :
    Grown top now reserve after := by
  rcases second with ⟨stamp, index⟩ | ⟨stamp, index⟩
  · rw [Grown, stamp, index]
    exact first
  · right
    refine ⟨stamp, ?_⟩
    rcases first with ⟨stamp', index'⟩ | ⟨stamp', index'⟩
    · rwa [stamp', index'] at index
    · rw [stamp', Nat.sub_self, compoundedInterest_zero, Nat.mul_comm, rayMul_RAY] at index
      exact le_trans index index'

theorem of_operation (operation : Reserve.Operation env reserve after)
    (capped : CappedAt top reserve) : Grown top env.timestamp reserve after := by
  cases operation.moved with
  | accrue computed =>
      obtain ⟨_, _, _, run⟩ := updateState_ok computed
      right
      refine ⟨updateState_timestamp computed, ?_⟩
      rw [run.result]
      rw [run.floating, ReserveData.accruedVariableBorrowIndex]
      split_ifs
      · exact divHalfUp_mono (Nat.mul_le_mul_right _
          (compoundedInterest_mono capped.rate (le_refl _))) RAY
      · rw [Nat.mul_comm]
        exact le_rayMul (RAY_le_compoundedInterest _ _)
  | rate data =>
      rw [Grown, data]
      exact .inl ⟨rfl, rfl⟩
  | income computed =>
      obtain ⟨_, _, _, data⟩ := ReserveData.cumulateToLiquidityIndex_ok computed
      rw [Grown, data]
      exact .inl ⟨rfl, rfl⟩
  | keep data => exact .of_data data

theorem of_operations (operations : Reserve.Operations env reserve after)
    (capped : CappedAt top reserve) :
    CappedAt top after ∧ Grown top env.timestamp reserve after := by
  induction operations with
  | refl => exact ⟨capped, refl _⟩
  | tail _ last ih =>
      obtain ⟨capped, grown⟩ := ih
      exact ⟨capped.operation last, grown.trans (of_operation last capped)⟩

end Grown

end Reserve

end PalmyProtocol
