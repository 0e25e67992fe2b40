import PalmyProtocol.Pool.ReserveLogic

set_option autoImplicit false

namespace PalmyProtocol

open Checked Rounding

def HEALTH_FACTOR_LIQUIDATION_THRESHOLD : Nat := WAD

-- `10 ** decimals` is not checked: past 77 decimals it wraps around.
def tokenUnit (decimals : Nat) : Nat := 10 ^ decimals % 2 ^ 256

theorem tokenUnit_le (decimals : Nat) : tokenUnit decimals ≤ 10 ^ decimals := Nat.mod_le _ _

theorem tokenUnit_exact {decimals : Nat} (few : decimals < 78) :
    tokenUnit decimals = 10 ^ decimals := by
  apply Nat.mod_eq_of_lt
  calc 10 ^ decimals ≤ 10 ^ 77 := Nat.pow_le_pow_right (by decide) (by omega)
    _ < 2 ^ 256 := by decide

-- `price.mul(amount).div(10 ** decimals)`
def valueInETH (price : Result Nat) (amount decimals : Nat) : Result Nat := do
  let reserveUnitPrice ← price
  let product ← SafeMath.mul reserveUnitPrice amount
  SafeMath.div product (tokenUnit decimals)

-- The two averages hold weighted sums until the loop is over.
structure UserAccountTotals where
  totalCollateralInETH : Nat
  totalDebtInETH : Nat
  avgLtv : Nat
  avgLiquidationThreshold : Nat

structure UserAccountData extends UserAccountTotals where
  healthFactor : Nat

namespace GenericLogic

def calculateHealthFactorFromBalances (totalCollateralInETH totalDebtInETH liquidationThreshold : Nat) :
    Result Nat :=
  if totalDebtInETH = 0 then .ok maxUint256 else do
    let weighted ← percentMul totalCollateralInETH liquidationThreshold
    wadDiv weighted totalDebtInETH

def calculateAvailableBorrowsETH (totalCollateralInETH totalDebtInETH ltv : Nat) : Result Nat := do
  let availableBorrowsETH ← percentMul totalCollateralInETH ltv
  if availableBorrowsETH < totalDebtInETH then pure 0
  else SafeMath.sub availableBorrowsETH totalDebtInETH

variable (env : Env) (pool : LendingPool)

def addCollateral (user asset : Address) (totals : UserAccountTotals) : Result UserAccountTotals := do
  let currentReserve := pool.reserves asset
  let compoundedLiquidityBalance ← currentReserve.lTokenBalanceOf env.timestamp user
  let liquidityBalanceETH ← valueInETH (env.getAssetPrice asset) compoundedLiquidityBalance
    currentReserve.configuration.getDecimals
  let totalCollateralInETH ← SafeMath.add totals.totalCollateralInETH liquidityBalanceETH
  let ltvShare ← SafeMath.mul liquidityBalanceETH currentReserve.configuration.getLtv
  let avgLtv ← SafeMath.add totals.avgLtv ltvShare
  let thresholdShare ←
    SafeMath.mul liquidityBalanceETH currentReserve.configuration.getLiquidationThreshold
  let avgLiquidationThreshold ← SafeMath.add totals.avgLiquidationThreshold thresholdShare
  pure { totals with totalCollateralInETH, avgLtv, avgLiquidationThreshold }

def addDebt (user asset : Address) (totals : UserAccountTotals) : Result UserAccountTotals := do
  let currentReserve := pool.reserves asset
  let (stableDebt, variableDebt) ← currentReserve.getUserCurrentDebt env.timestamp user
  let compoundedBorrowBalance ← SafeMath.add stableDebt variableDebt
  let debtETH ← valueInETH (env.getAssetPrice asset) compoundedBorrowBalance
    currentReserve.configuration.getDecimals
  let totalDebtInETH ← SafeMath.add totals.totalDebtInETH debtETH
  pure { totals with totalDebtInETH }

def addReserve (user : Address) (userConfig : UserConfigurationMap) (totals : UserAccountTotals)
    (i : Nat) : Result UserAccountTotals := do
  let used ← userConfig.isUsingAsCollateralOrBorrowing i
  if used = false then pure totals else do
    let asset := pool.reservesList i
    let liquidationThreshold := (pool.reserves asset).configuration.getLiquidationThreshold
    let _ ← env.getAssetPrice asset
    let collateral ← userConfig.isUsingAsCollateral i
    let totals ←
      (if liquidationThreshold ≠ 0 ∧ collateral then addCollateral env pool user asset totals
      else pure totals)
    let borrowing ← userConfig.isBorrowing i
    if borrowing then addDebt env pool user asset totals else pure totals

def calculateUserAccountData (user : Address) (userConfig : UserConfigurationMap) :
    Result UserAccountData :=
  if userConfig.isEmpty then .ok ⟨⟨0, 0, 0, 0⟩, maxUint256⟩ else do
    let totals ← (List.range pool.reservesCount).foldlM
      (addReserve env pool user userConfig) ⟨0, 0, 0, 0⟩
    let avgLtv ←
      (if 0 < totals.totalCollateralInETH then
        SafeMath.div totals.avgLtv totals.totalCollateralInETH
      else pure 0)
    let avgLiquidationThreshold ←
      (if 0 < totals.totalCollateralInETH then
        SafeMath.div totals.avgLiquidationThreshold totals.totalCollateralInETH
      else pure 0)
    let healthFactor ← calculateHealthFactorFromBalances totals.totalCollateralInETH
      totals.totalDebtInETH avgLiquidationThreshold
    pure { totals with avgLtv, avgLiquidationThreshold, healthFactor }

def balanceDecreaseAllowed (asset user : Address) (amount : Nat)
    (userConfig : UserConfigurationMap) : Result Bool :=
  if userConfig.isBorrowingAny = false then .ok true else do
    let reserve := pool.reserves asset
    let collateral ← userConfig.isUsingAsCollateral reserve.id
    if collateral = false then pure true else do
      let liquidationThreshold := reserve.configuration.getLiquidationThreshold
      if liquidationThreshold = 0 then pure true else do
        let account ← calculateUserAccountData env pool user userConfig
        if account.totalDebtInETH = 0 then pure true else do
          let amountToDecreaseInETH ←
            valueInETH (env.getAssetPrice asset) amount reserve.configuration.getDecimals
          let collateralBalanceAfterDecrease ←
            SafeMath.sub account.totalCollateralInETH amountToDecreaseInETH
          -- if there is a borrow, there can't be 0 collateral
          if collateralBalanceAfterDecrease = 0 then pure false else do
            let weighted ←
              SafeMath.mul account.totalCollateralInETH account.avgLiquidationThreshold
            let removed ← SafeMath.mul amountToDecreaseInETH liquidationThreshold
            let remaining ← SafeMath.sub weighted removed
            let liquidationThresholdAfterDecrease ←
              SafeMath.div remaining collateralBalanceAfterDecrease
            let healthFactorAfterDecrease ← calculateHealthFactorFromBalances
              collateralBalanceAfterDecrease account.totalDebtInETH
              liquidationThresholdAfterDecrease
            pure (HEALTH_FACTOR_LIQUIDATION_THRESHOLD ≤ healthFactorAfterDecrease)

end GenericLogic

end PalmyProtocol
