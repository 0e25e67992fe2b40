import PalmyProtocol.Pool.ValidationLogic

set_option autoImplicit false

namespace PalmyProtocol

open Checked Rounding

namespace LendingPoolCollateralManager

def LIQUIDATION_CLOSE_FACTOR_PERCENT : Nat := 5000

variable (env : Env) (pool : LendingPool)

def calculateAvailableCollateralToLiquidate (collateralReserve debtReserve : Reserve)
    (collateralAsset debtAsset : Address) (debtToCover userCollateralBalance : Nat) :
    Result (Nat × Nat) := do
  let collateralPrice ← env.getAssetPrice collateralAsset
  let debtAssetPrice ← env.getAssetPrice debtAsset
  let liquidationBonus := collateralReserve.configuration.getLiquidationBonus
  let collateralUnit := tokenUnit collateralReserve.configuration.getDecimals
  let debtUnit := tokenUnit debtReserve.configuration.getDecimals
  let debtValue ← SafeMath.mul debtAssetPrice debtToCover
  let scaledDebtValue ← SafeMath.mul debtValue collateralUnit
  let bonusValue ← percentMul scaledDebtValue liquidationBonus
  let collateralPriceUnit ← SafeMath.mul collateralPrice debtUnit
  let maxAmountCollateralToLiquidate ← SafeMath.div bonusValue collateralPriceUnit
  if userCollateralBalance < maxAmountCollateralToLiquidate then do
    let collateralValue ← SafeMath.mul collateralPrice userCollateralBalance
    let scaledCollateralValue ← SafeMath.mul collateralValue debtUnit
    let debtPriceUnit ← SafeMath.mul debtAssetPrice collateralUnit
    let debtWithBonus ← SafeMath.div scaledCollateralValue debtPriceUnit
    let debtAmountNeeded ← percentDiv debtWithBonus liquidationBonus
    pure (userCollateralBalance, debtAmountNeeded)
  else pure (maxAmountCollateralToLiquidate, debtToCover)

-- Variable debt goes first; the stable debt takes what is left.
def burnDebt (reserve : Reserve) (user : Address) (actualDebtToLiquidate userVariableDebt : Nat) :
    Result Reserve :=
  if actualDebtToLiquidate ≤ userVariableDebt then
    reserve.burnVariableDebt user actualDebtToLiquidate
  else do
    let reserve ←
      (if 0 < userVariableDebt then reserve.burnVariableDebt user userVariableDebt
      else pure reserve)
    let stablePart ← SafeMath.sub actualDebtToLiquidate userVariableDebt
    reserve.burnStableDebt env.timestamp user stablePart

def repayDebt (debtAsset user : Address) (actualDebtToLiquidate userVariableDebt : Nat) :
    Result LendingPool := do
  let reserve ← (pool.reserves debtAsset).updateState env.timestamp
  let reserve ← burnDebt env reserve user actualDebtToLiquidate userVariableDebt
  let reserve ← reserve.updateInterestRates env debtAsset reserve.lTokenAddress
    actualDebtToLiquidate 0
  pure (pool.setReserve debtAsset reserve)

def seizeLTokens (msgSender collateralAsset user : Address) (amount : Nat) :
    Result LendingPool := do
  let reserve := pool.reserves collateralAsset
  let liquidatorPreviousLTokenBalance ← reserve.lTokenBalanceOf env.timestamp msgSender
  let (lToken, _, _) ←
    reserve.lToken.transfer (reserve.getNormalizedIncome env.timestamp) user msgSender amount
  let liquidatorConfig ←
    (if liquidatorPreviousLTokenBalance = 0 then
      (pool.usersConfig msgSender).setUsingAsCollateral reserve.id true
    else pure (pool.usersConfig msgSender))
  pure ((pool.setReserve collateralAsset { reserve with lToken }).setUserConfig msgSender
    liquidatorConfig)

def seizeUnderlying (msgSender collateralAsset user : Address) (amount : Nat) :
    Result LendingPool := do
  let reserve ← (pool.reserves collateralAsset).updateState env.timestamp
  let reserve ← reserve.updateInterestRates env collateralAsset reserve.lTokenAddress 0 amount
  let reserve ← reserve.burnLToken user msgSender amount
  pure (pool.setReserve collateralAsset reserve)

def executeLiquidation (msgSender collateralAsset debtAsset user : Address)
    (actualDebtToLiquidate userVariableDebt maxCollateralToLiquidate userCollateralBalance : Nat)
    (receiveLToken : Bool) : Result LendingPool := do
  let pool ← repayDebt env pool debtAsset user actualDebtToLiquidate userVariableDebt
  let pool ←
    (if receiveLToken then
      seizeLTokens env pool msgSender collateralAsset user maxCollateralToLiquidate
    else seizeUnderlying env pool msgSender collateralAsset user maxCollateralToLiquidate)
  let userConfig ←
    (if maxCollateralToLiquidate = userCollateralBalance then
      (pool.usersConfig user).setUsingAsCollateral (pool.reserves collateralAsset).id false
    else pure (pool.usersConfig user))
  let pool := pool.setUserConfig user userConfig
  let debtReserve := pool.reserves debtAsset
  let debtReserve ← debtReserve.transferUnderlyingFrom pool.self msgSender
    debtReserve.lTokenAddress actualDebtToLiquidate
  pure (pool.setReserve debtAsset debtReserve)

def liquidationCall (msgSender collateralAsset debtAsset user : Address) (debtToCover : Nat)
    (receiveLToken : Bool) : Result (LendingPool × Errors.CollateralManagerErrors × String) := do
  let collateralReserve := pool.reserves collateralAsset
  let debtReserve := pool.reserves debtAsset
  let account ← GenericLogic.calculateUserAccountData env pool user (pool.usersConfig user)
  let (userStableDebt, userVariableDebt) ← debtReserve.getUserCurrentDebt env.timestamp user
  let (errorCode, errorMsg) ← ValidationLogic.validateLiquidationCall collateralReserve debtReserve
    (pool.usersConfig user) account.healthFactor userStableDebt userVariableDebt
  if errorCode ≠ .NO_ERROR then pure (pool, errorCode, errorMsg) else do
    let userCollateralBalance ← collateralReserve.lTokenBalanceOf env.timestamp user
    let userDebt ← SafeMath.add userStableDebt userVariableDebt
    let maxLiquidatableDebt ← percentMul userDebt LIQUIDATION_CLOSE_FACTOR_PERCENT
    let requestedDebt := min debtToCover maxLiquidatableDebt
    let (maxCollateralToLiquidate, debtAmountNeeded) ← calculateAvailableCollateralToLiquidate env
      collateralReserve debtReserve collateralAsset debtAsset requestedDebt userCollateralBalance
    let actualDebtToLiquidate := min debtAmountNeeded requestedDebt
    if receiveLToken = false ∧
        collateralReserve.availableLiquidity < maxCollateralToLiquidate then
      pure (pool, .NOT_ENOUGH_LIQUIDITY, Errors.LPCM_NOT_ENOUGH_LIQUIDITY_TO_LIQUIDATE)
    else do
      let pool ← executeLiquidation env pool msgSender collateralAsset debtAsset user
        actualDebtToLiquidate userVariableDebt maxCollateralToLiquidate userCollateralBalance
        receiveLToken
      pure (pool, .NO_ERROR, Errors.LPCM_NO_ERRORS)

end LendingPoolCollateralManager

end PalmyProtocol
