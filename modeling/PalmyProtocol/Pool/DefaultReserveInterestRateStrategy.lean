import PalmyProtocol.Math.WadRayMath

set_option autoImplicit false

namespace PalmyProtocol

open Checked Rounding

-- The constructor's checked subtraction is what bounds the optimal rate.
structure DefaultReserveInterestRateStrategy where
  OPTIMAL_UTILIZATION_RATE : Nat
  baseVariableBorrowRate : Nat
  variableRateSlope1 : Nat
  variableRateSlope2 : Nat
  stableRateSlope1 : Nat
  stableRateSlope2 : Nat
  optimal_bound : OPTIMAL_UTILIZATION_RATE ≤ RAY

namespace DefaultReserveInterestRateStrategy

variable (strategy : DefaultReserveInterestRateStrategy)

def EXCESS_UTILIZATION_RATE : Nat := RAY - strategy.OPTIMAL_UTILIZATION_RATE

def getMaxVariableBorrowRate : Result Nat := do
  let rate ← SafeMath.add strategy.baseVariableBorrowRate strategy.variableRateSlope1
  SafeMath.add rate strategy.variableRateSlope2

def calculateUtilizationRate (availableLiquidity totalDebt : Nat) : Result Nat :=
  if totalDebt = 0 then .ok 0 else do
    let totalLiquidity ← SafeMath.add availableLiquidity totalDebt
    rayDiv totalDebt totalLiquidity

def calculateBorrowRates (marketBorrowRate utilizationRate : Nat) : Result (Nat × Nat) :=
  if strategy.OPTIMAL_UTILIZATION_RATE < utilizationRate then do
    let excess ← SafeMath.sub utilizationRate strategy.OPTIMAL_UTILIZATION_RATE
    let excessUtilizationRateRatio ← rayDiv excess strategy.EXCESS_UTILIZATION_RATE
    let stableBase ← SafeMath.add marketBorrowRate strategy.stableRateSlope1
    let stableExcess ← rayMul strategy.stableRateSlope2 excessUtilizationRateRatio
    let currentStableBorrowRate ← SafeMath.add stableBase stableExcess
    let variableBase ← SafeMath.add strategy.baseVariableBorrowRate strategy.variableRateSlope1
    let variableExcess ← rayMul strategy.variableRateSlope2 excessUtilizationRateRatio
    let currentVariableBorrowRate ← SafeMath.add variableBase variableExcess
    pure (currentStableBorrowRate, currentVariableBorrowRate)
  else do
    let ratio ← rayDiv utilizationRate strategy.OPTIMAL_UTILIZATION_RATE
    let stableSlope ← rayMul strategy.stableRateSlope1 ratio
    let currentStableBorrowRate ← SafeMath.add marketBorrowRate stableSlope
    let variableProduct ← rayMul utilizationRate strategy.variableRateSlope1
    let variableSlope ← rayDiv variableProduct strategy.OPTIMAL_UTILIZATION_RATE
    let currentVariableBorrowRate ← SafeMath.add strategy.baseVariableBorrowRate variableSlope
    pure (currentStableBorrowRate, currentVariableBorrowRate)

def getOverallBorrowRate (totalStableDebt totalVariableDebt currentVariableBorrowRate
    currentAverageStableBorrowRate : Nat) : Result Nat := do
  let totalDebt ← SafeMath.add totalStableDebt totalVariableDebt
  if totalDebt = 0 then pure 0 else do
    let variableInRay ← wadToRay totalVariableDebt
    let weightedVariableRate ← rayMul variableInRay currentVariableBorrowRate
    let stableInRay ← wadToRay totalStableDebt
    let weightedStableRate ← rayMul stableInRay currentAverageStableBorrowRate
    let weighted ← SafeMath.add weightedVariableRate weightedStableRate
    let totalInRay ← wadToRay totalDebt
    rayDiv weighted totalInRay

def calculateInterestRates (marketBorrowRate : Result Nat) (availableLiquidity totalStableDebt
    totalVariableDebt averageStableBorrowRate reserveFactor : Nat) : Result (Nat × Nat × Nat) := do
  let totalDebt ← SafeMath.add totalStableDebt totalVariableDebt
  let utilizationRate ← calculateUtilizationRate availableLiquidity totalDebt
  let marketRate ← marketBorrowRate
  let (currentStableBorrowRate, currentVariableBorrowRate) ←
    strategy.calculateBorrowRates marketRate utilizationRate
  let overallBorrowRate ← getOverallBorrowRate totalStableDebt totalVariableDebt
    currentVariableBorrowRate averageStableBorrowRate
  let income ← rayMul overallBorrowRate utilizationRate
  let supplierShare ← SafeMath.sub PERCENTAGE_FACTOR reserveFactor
  let currentLiquidityRate ← percentMul income supplierShare
  pure (currentLiquidityRate, currentStableBorrowRate, currentVariableBorrowRate)

def calculateInterestRatesAfter (marketBorrowRate : Result Nat) (balance liquidityAdded
    liquidityTaken totalStableDebt totalVariableDebt averageStableBorrowRate reserveFactor : Nat) :
    Result (Nat × Nat × Nat) := do
  let raised ← SafeMath.add balance liquidityAdded
  let availableLiquidity ← SafeMath.sub raised liquidityTaken
  strategy.calculateInterestRates marketBorrowRate availableLiquidity totalStableDebt
    totalVariableDebt averageStableBorrowRate reserveFactor

variable {strategy}

theorem calculateInterestRatesAfter_ok {marketBorrowRate : Result Nat} {balance liquidityAdded
    liquidityTaken totalStableDebt totalVariableDebt averageStableBorrowRate reserveFactor : Nat}
    {rates : Nat × Nat × Nat}
    (computed : strategy.calculateInterestRatesAfter marketBorrowRate balance liquidityAdded
      liquidityTaken totalStableDebt totalVariableDebt averageStableBorrowRate reserveFactor =
      .ok rates) :
    liquidityTaken ≤ balance + liquidityAdded ∧
      strategy.calculateInterestRates marketBorrowRate (balance + liquidityAdded - liquidityTaken)
        totalStableDebt totalVariableDebt averageStableBorrowRate reserveFactor = .ok rates := by
  simp only [calculateInterestRatesAfter, bind_eq_ok, SafeMath.add_eq_ok, SafeMath.sub_eq_ok]
    at computed
  obtain ⟨_, ⟨_, rfl⟩, _, ⟨enough, rfl⟩, rates⟩ := computed
  exact ⟨enough, rates⟩

theorem liquidityRate_of_no_debt {marketBorrowRate : Result Nat} {availableLiquidity
    averageStableBorrowRate reserveFactor liquidityRate stableRate variableRate : Nat}
    (computed : strategy.calculateInterestRates marketBorrowRate availableLiquidity 0 0
      averageStableBorrowRate reserveFactor = .ok (liquidityRate, stableRate, variableRate)) :
    liquidityRate = 0 := by
  simp only [calculateInterestRates, calculateUtilizationRate, getOverallBorrowRate, bind_eq_ok,
    SafeMath.add_eq_ok, SafeMath.sub_eq_ok, rayMul_eq_ok, percentMul_eq_ok, ite_eq_ok,
    pure_eq_ok, Prod.exists, Prod.mk.injEq, Nat.add_zero, Except.ok.injEq] at computed
  obtain ⟨_, ⟨_, rfl⟩, utilization, idle, _, _, _, _, _, overall, ⟨_, ⟨_, rfl⟩, flat⟩, income,
    ⟨_, rfl⟩, share, _, rate, ⟨_, rfl⟩, rfl, _, _⟩ := computed
  rcases flat with ⟨_, rfl⟩ | ⟨positive, _⟩
  · simp
  · exact absurd rfl positive

end DefaultReserveInterestRateStrategy

end PalmyProtocol
