import PalmyProtocol.Pool.GenericLogic

set_option autoImplicit false

namespace PalmyProtocol

open Checked Rounding

namespace ValidationLogic

def REBALANCE_UP_LIQUIDITY_RATE_THRESHOLD : Nat := 4000
-- usage ratio of 95%
def REBALANCE_UP_USAGE_RATIO_THRESHOLD : Nat := 950000000000000000000000000

variable (env : Env) (pool : LendingPool)

def validateDeposit (reserve : Reserve) (amount : Nat) : Result Unit := do
  let (isActive, isFrozen, _, _) := reserve.configuration.getFlags
  require (amount ≠ 0) Errors.VL_INVALID_AMOUNT
  require isActive Errors.VL_NO_ACTIVE_RESERVE
  require (isFrozen = false) Errors.VL_RESERVE_FROZEN

def validateWithdraw (msgSender reserveAddress : Address) (amount userBalance : Nat) :
    Result Unit := do
  require (amount ≠ 0) Errors.VL_INVALID_AMOUNT
  require (amount ≤ userBalance) Errors.VL_NOT_ENOUGH_AVAILABLE_USER_BALANCE
  require (pool.reserves reserveAddress).configuration.getActive Errors.VL_NO_ACTIVE_RESERVE
  let allowed ← GenericLogic.balanceDecreaseAllowed env pool reserveAddress msgSender amount
    (pool.usersConfig msgSender)
  require allowed Errors.VL_TRANSFER_NOT_ALLOWED

def collateralIsBorrowed (reserve : Reserve) (user : Address) (debt : Result Nat) : Result Bool := do
  let collateral ← (pool.usersConfig user).isUsingAsCollateral reserve.id
  if collateral = false then pure false
  else if reserve.configuration.getLtv = 0 then pure false
  else do
    let borrowed ← debt
    let balance ← reserve.lTokenBalanceOf env.timestamp user
    pure (borrowed ≤ balance)

def validateStableBorrow (asset userAddress : Address) (amount : Nat) : Result Unit := do
  let reserve := pool.reserves asset
  require reserve.configuration.getStableRateBorrowingEnabled Errors.VL_STABLE_BORROWING_NOT_ENABLED
  let sameCurrency ← collateralIsBorrowed env pool reserve userAddress do
    let stableDebt ← reserve.stableDebtBalanceOf env.timestamp userAddress
    SafeMath.add amount stableDebt
  require (sameCurrency = false) Errors.VL_COLLATERAL_SAME_AS_BORROWING_CURRENCY
  let maxLoanSizeStable ←
    percentMul reserve.availableLiquidity pool.maxStableRateBorrowSizePercent
  require (amount ≤ maxLoanSizeStable) Errors.VL_AMOUNT_BIGGER_THAN_MAX_LOAN_SIZE_STABLE

def validateBorrow (asset userAddress : Address) (amount amountInETH interestRateMode : Nat) :
    Result Unit := do
  let (isActive, isFrozen, borrowingEnabled, _) := (pool.reserves asset).configuration.getFlags
  require isActive Errors.VL_NO_ACTIVE_RESERVE
  require (isFrozen = false) Errors.VL_RESERVE_FROZEN
  require (amount ≠ 0) Errors.VL_INVALID_AMOUNT
  require borrowingEnabled Errors.VL_BORROWING_NOT_ENABLED
  require (interestRateMode = 2 ∨ interestRateMode = 1)
    Errors.VL_INVALID_INTEREST_RATE_MODE_SELECTED
  let account ← GenericLogic.calculateUserAccountData env pool userAddress
    (pool.usersConfig userAddress)
  require (0 < account.totalCollateralInETH) Errors.VL_COLLATERAL_BALANCE_IS_0
  require (HEALTH_FACTOR_LIQUIDATION_THRESHOLD < account.healthFactor)
    Errors.VL_HEALTH_FACTOR_LOWER_THAN_LIQUIDATION_THRESHOLD
  -- add the current already borrowed amount to the amount requested
  let borrowed ← SafeMath.add account.totalDebtInETH amountInETH
  let amountOfCollateralNeededETH ← percentDiv borrowed account.avgLtv
  require (amountOfCollateralNeededETH ≤ account.totalCollateralInETH)
    Errors.VL_COLLATERAL_CANNOT_COVER_NEW_BORROW
  if interestRateMode = 1 then validateStableBorrow env pool asset userAddress amount else pure ()

def validateRepay (reserve : Reserve) (msgSender : Address) (amountSent : Nat)
    (rateMode : InterestRateMode) (onBehalfOf : Address) (stableDebt variableDebt : Nat) :
    Result Unit := do
  require reserve.configuration.getActive Errors.VL_NO_ACTIVE_RESERVE
  require (0 < amountSent) Errors.VL_INVALID_AMOUNT
  require (0 < stableDebt ∧ rateMode = .STABLE ∨ 0 < variableDebt ∧ rateMode = .VARIABLE)
    Errors.VL_NO_DEBT_OF_SELECTED_TYPE
  require (amountSent ≠ maxUint256 ∨ msgSender = onBehalfOf)
    Errors.VL_NO_EXPLICIT_AMOUNT_TO_REPAY_ON_BEHALF

def validateSwapRateMode (reserve : Reserve) (msgSender : Address) (stableDebt variableDebt : Nat)
    (currentRateMode : InterestRateMode) : Result Unit := do
  let (isActive, isFrozen, _, stableRateEnabled) := reserve.configuration.getFlags
  require isActive Errors.VL_NO_ACTIVE_RESERVE
  require (isFrozen = false) Errors.VL_RESERVE_FROZEN
  match currentRateMode with
  | .STABLE => require (0 < stableDebt) Errors.VL_NO_STABLE_RATE_LOAN_IN_RESERVE
  | .VARIABLE => do
    require (0 < variableDebt) Errors.VL_NO_VARIABLE_RATE_LOAN_IN_RESERVE
    require stableRateEnabled Errors.VL_STABLE_BORROWING_NOT_ENABLED
    let sameCurrency ← collateralIsBorrowed env pool reserve msgSender
      (SafeMath.add stableDebt variableDebt)
    require (sameCurrency = false) Errors.VL_COLLATERAL_SAME_AS_BORROWING_CURRENCY
  | .NONE => .error Errors.VL_INVALID_INTEREST_RATE_MODE_SELECTED

def usageRatio (reserve : Reserve) : Result Nat := do
  let stableDebt ← reserve.stableDebtToken.totalSupply env.timestamp
  let variableDebt ← reserve.variableDebtToken.totalSupply (reserve.getNormalizedDebt env.timestamp)
  let debt ← SafeMath.add stableDebt variableDebt
  let totalDebt ← wadToRay debt
  let availableLiquidity ← wadToRay reserve.availableLiquidity
  if totalDebt = 0 then pure 0 else do
    let totalLiquidity ← SafeMath.add availableLiquidity totalDebt
    rayDiv totalDebt totalLiquidity

def validateRebalanceStableBorrowRate (reserve : Reserve) : Result Unit := do
  require reserve.configuration.getActive Errors.VL_NO_ACTIVE_RESERVE
  -- if the usage ratio is below 95%, no rebalances are needed
  let usageRatio ← usageRatio env reserve
  match reserve.interestRateStrategyAddress with
  | none => .error noMessage
  | some strategy => do
    let maxVariableBorrowRate ← strategy.getMaxVariableBorrowRate
    let ceiling ← percentMul maxVariableBorrowRate REBALANCE_UP_LIQUIDITY_RATE_THRESHOLD
    require (REBALANCE_UP_USAGE_RATIO_THRESHOLD ≤ usageRatio ∧
        reserve.currentLiquidityRate ≤ ceiling)
      Errors.LP_INTEREST_RATE_REBALANCE_CONDITIONS_NOT_MET

def validateSetUseReserveAsCollateral (msgSender reserveAddress : Address)
    (useAsCollateral : Bool) : Result Unit := do
  let underlyingBalance ← (pool.reserves reserveAddress).lTokenBalanceOf env.timestamp msgSender
  require (0 < underlyingBalance) Errors.VL_UNDERLYING_BALANCE_NOT_GREATER_THAN_0
  let allowed ←
    (if useAsCollateral then pure true
    else GenericLogic.balanceDecreaseAllowed env pool reserveAddress msgSender underlyingBalance
      (pool.usersConfig msgSender))
  require allowed Errors.VL_DEPOSIT_ALREADY_IN_USE

def validateFlashloan (assets : List Address) (amounts : List Nat) : Result Unit :=
  require (assets.length = amounts.length) Errors.VL_INCONSISTENT_FLASHLOAN_PARAMS

def validateLiquidationCall (collateralReserve principalReserve : Reserve)
    (userConfig : UserConfigurationMap) (userHealthFactor userStableDebt userVariableDebt : Nat) :
    Result (Errors.CollateralManagerErrors × String) :=
  if collateralReserve.configuration.getActive = false ∨
      principalReserve.configuration.getActive = false then
    .ok (.NO_ACTIVE_RESERVE, Errors.VL_NO_ACTIVE_RESERVE)
  else if HEALTH_FACTOR_LIQUIDATION_THRESHOLD ≤ userHealthFactor then
    .ok (.HEALTH_FACTOR_ABOVE_THRESHOLD, Errors.LPCM_HEALTH_FACTOR_NOT_BELOW_THRESHOLD)
  else do
    let isCollateralEnabled ←
      (if 0 < collateralReserve.configuration.getLiquidationThreshold then
        userConfig.isUsingAsCollateral collateralReserve.id
      else pure false)
    if isCollateralEnabled = false then
      pure (.COLLATERAL_CANNOT_BE_LIQUIDATED, Errors.LPCM_COLLATERAL_CANNOT_BE_LIQUIDATED)
    else if userStableDebt = 0 ∧ userVariableDebt = 0 then
      pure (.CURRRENCY_NOT_BORROWED, Errors.LPCM_SPECIFIED_CURRENCY_NOT_BORROWED_BY_USER)
    else pure (.NO_ERROR, Errors.LPCM_NO_ERRORS)

def validateTransfer (sender : Address) : Result Unit := do
  let account ← GenericLogic.calculateUserAccountData env pool sender (pool.usersConfig sender)
  require (HEALTH_FACTOR_LIQUIDATION_THRESHOLD ≤ account.healthFactor) Errors.VL_TRANSFER_NOT_ALLOWED

end ValidationLogic

end PalmyProtocol
