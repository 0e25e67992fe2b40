import PalmyProtocol.Pool.ReserveLogic

set_option autoImplicit false

namespace PalmyProtocol

open Checked Rounding MathUtils

namespace Reserve

variable {reserve after : Reserve} {now : Nat}

-- The variable interest since the last update, applied to the stored index, does not reach half a
-- ray unit: the view would not show it either.
def InterestVanishes (reserve : Reserve) (now : Nat) : Prop :=
  2 * ((compoundedInterest reserve.currentVariableBorrowRate (now - reserve.lastUpdateTimestamp) -
    RAY) * reserve.variableBorrowIndex) < RAY

theorem grown_eq_iff {factor index : Nat} (grows : RAY ≤ factor) :
    divHalfUp (factor * index) RAY = index ↔ 2 * ((factor - RAY) * index) < RAY := by
  have grown : index ≤ divHalfUp (factor * index) RAY := by
    rw [Nat.mul_comm]
    exact le_rayMul grows
  have split : factor * index = RAY * index + (factor - RAY) * index := by
    rw [← Nat.add_mul, Nat.add_sub_cancel' grows]
  have exceeds := divHalfUp_lt (n := factor * index) (q := index + 1) RAY_pos
  rw [split, Nat.mul_add, Nat.mul_one] at exceeds
  have half : RAY = 2 * (RAY / 2) := by decide
  rw [← split] at exceeds
  constructor
  · intro same
    have below := exceeds.1 (by omega)
    omega
  · intro small
    have below := exceeds.2 (by omega)
    omega

-- For a listed reserve the interest vanishes only when the per-second rate floors to zero.
theorem interestVanishes_iff (grown : RAY ≤ reserve.variableBorrowIndex) :
    reserve.InterestVanishes now ↔ now - reserve.lastUpdateTimestamp = 0 ∨
      reserve.currentVariableBorrowRate < SECONDS_PER_YEAR := by
  have floor := RAY_le_compoundedInterest reserve.currentVariableBorrowRate
    (now - reserve.lastUpdateTimestamp)
  rw [InterestVanishes, ← compoundedInterest_eq_RAY]
  generalize compoundedInterest reserve.currentVariableBorrowRate
    (now - reserve.lastUpdateTimestamp) = factor at floor ⊢
  constructor
  · intro small
    by_contra moved
    have unit : 1 * reserve.variableBorrowIndex ≤ (factor - RAY) * reserve.variableBorrowIndex :=
      Nat.mul_le_mul_right _ (by omega)
    omega
  · rintro rfl
    rw [Nat.sub_self, Nat.zero_mul, Nat.mul_zero]
    exact RAY_pos

/-- The indexes that `updateState` stores are the ones that the views show just before, exactly
when income accrues, no time has passed or the variable interest rounds to nothing. -/
theorem updateState_matches_views {income debt : Nat} (small : now < 2 ^ 40)
    (owed : reserve.variableDebtToken.scaledTotalSupply ≠ 0)
    (shownIncome : reserve.getNormalizedIncome now = .ok income)
    (shownDebt : reserve.getNormalizedDebt now = .ok debt)
    (updated : reserve.updateState now = .ok after) :
    (after.liquidityIndex = income ∧ after.variableBorrowIndex = debt) ↔
      (0 < reserve.currentLiquidityRate ∨ reserve.lastUpdateTimestamp = now ∨
        reserve.InterestVanishes now) := by
  obtain ⟨lToken, liquidityIndex, variableBorrowIndex, run⟩ := updateState_ok updated
  obtain ⟨rfl, _⟩ := ReserveData.getNormalizedIncome_ok shownIncome
  obtain ⟨rfl, _⟩ := ReserveData.getNormalizedDebt_ok shownDebt
  have liquidity : after.liquidityIndex = reserve.normalizedIncome now := by
    rw [run.result, ← ReserveData.accruedLiquidityIndex_eq small]
    exact run.liquidity
  have floating : after.variableBorrowIndex = if 0 < reserve.currentLiquidityRate then
      divHalfUp (compoundedInterest reserve.currentVariableBorrowRate
        (now - reserve.lastUpdateTimestamp) * reserve.variableBorrowIndex) RAY
      else reserve.variableBorrowIndex := by
    have stored := run.floating
    rw [ReserveData.accruedVariableBorrowIndex] at stored
    simp only [show reserve.variableDebtToken.base.totalSupply ≠ 0 from owed, ne_eq,
      not_false_eq_true, and_true] at stored
    rw [run.result]
    exact stored
  simp only [liquidity, true_and, floating, ReserveData.normalizedDebt, uint40_of_lt small]
  by_cases current : reserve.lastUpdateTimestamp = now
  · have still : RAY * reserve.variableBorrowIndex = reserve.variableBorrowIndex * RAY :=
      Nat.mul_comm _ _
    simp [current, still, rayMul_RAY]
  · by_cases earning : 0 < reserve.currentLiquidityRate
    · simp [current, earning]
    · simp only [current, earning, if_false, false_or]
      rw [eq_comm, grown_eq_iff (RAY_le_compoundedInterest _ _)]
      rfl

-- A reserve whose whole income goes to the treasury: the liquidity rate is zero, the variable
-- rate is 5% a year.
def fullyTaxedReserve : Reserve where
  configuration := ⟨10000 <<< 64⟩
  liquidityIndex := RAY
  variableBorrowIndex := RAY
  currentLiquidityRate := 0
  currentVariableBorrowRate := RAY / 20
  currentStableBorrowRate := RAY / 10
  lastUpdateTimestamp := 1
  lTokenAddress := 101
  stableDebtTokenAddress := 102
  variableDebtTokenAddress := 103
  interestRateStrategyAddress := none
  id := 0
  lToken := ⟨⟨fun user => if user = 7 then 1000 * WAD else 0, fun _ _ => 0, 1000 * WAD⟩, 5⟩
  stableDebtToken := .empty
  variableDebtToken :=
    ⟨⟨fun user => if user = 8 then 500 * WAD else 0, fun _ _ => 0, 500 * WAD⟩, fun _ _ => 0⟩
  underlying := ⟨fun user => if user = 101 then 500 * WAD else 0, fun _ _ => 0, 500 * WAD⟩

theorem fullyTaxedReserve_disagrees : ¬∀ (reserve after : Reserve) (now income debt : Nat),
    now < 2 ^ 40 → reserve.lastUpdateTimestamp ≤ now →
    reserve.variableDebtToken.scaledTotalSupply ≠ 0 →
    reserve.getNormalizedIncome now = .ok income → reserve.getNormalizedDebt now = .ok debt →
    reserve.updateState now = .ok after →
    after.liquidityIndex = income ∧ after.variableBorrowIndex = debt := by
  intro agree
  have shown : yields (fullyTaxedReserve.getNormalizedDebt 31536001) (fun debt => RAY < debt) := by
    decide +kernel
  have stored : yields (fullyTaxedReserve.updateState 31536001)
      (fun after => after.variableBorrowIndex = RAY) := by
    decide +kernel
  have income : fullyTaxedReserve.getNormalizedIncome 31536001 = .ok RAY := by
    decide +kernel
  obtain ⟨debt, viewed, more⟩ := yields_iff.1 shown
  obtain ⟨after, updated, same⟩ := yields_iff.1 stored
  have more := of_decide_eq_true more
  have same := of_decide_eq_true same
  have equal := agree fullyTaxedReserve after 31536001 RAY debt (by decide) (by decide) (by decide)
    income viewed updated
  omega

-- The same with 2% a year for the depositors.
def earningReserve : Reserve := { fullyTaxedReserve with currentLiquidityRate := RAY / 50 }

theorem updateState_matches_views_fullyTaxed :
    (∃ (after : Reserve) (debt : Nat),
      fullyTaxedReserve.getNormalizedDebt 31536001 = .ok debt ∧
      fullyTaxedReserve.updateState 31536001 = .ok after ∧
      ((after.liquidityIndex = RAY ∧ after.variableBorrowIndex = debt) ↔
        (0 < fullyTaxedReserve.currentLiquidityRate ∨
          fullyTaxedReserve.lastUpdateTimestamp = 31536001 ∨
          fullyTaxedReserve.InterestVanishes 31536001))) ∧
    ∃ (after : Reserve) (debt : Nat),
      earningReserve.getNormalizedDebt 31536001 = .ok debt ∧ RAY < debt ∧
      earningReserve.updateState 31536001 = .ok after ∧
      after.liquidityIndex = RAY + RAY / 50 ∧ after.variableBorrowIndex = debt := by
  have shown : yields (fullyTaxedReserve.getNormalizedDebt 31536001) (fun _ => true) := by
    decide +kernel
  have stored : yields (fullyTaxedReserve.updateState 31536001) (fun _ => true) := by
    decide +kernel
  have shown' : yields (earningReserve.getNormalizedDebt 31536001) (RAY < ·) := by
    decide +kernel
  have stored' : yields (earningReserve.updateState 31536001) (fun _ => true) := by
    decide +kernel
  obtain ⟨debt, viewed, _⟩ := yields_iff.1 shown
  obtain ⟨after, updated, _⟩ := yields_iff.1 stored
  obtain ⟨debt', viewed', more⟩ := yields_iff.1 shown'
  obtain ⟨after', updated', _⟩ := yields_iff.1 stored'
  have agree : after'.liquidityIndex = RAY + RAY / 50 ∧ after'.variableBorrowIndex = debt' :=
    (updateState_matches_views (by decide) (by decide) (by decide +kernel) viewed' updated').2
      (.inl (by decide))
  exact ⟨⟨after, debt, viewed, updated, updateState_matches_views (by decide) (by decide)
    (by decide +kernel) viewed updated⟩, after', debt', viewed', of_decide_eq_true more, updated',
    agree⟩

end Reserve

end PalmyProtocol
