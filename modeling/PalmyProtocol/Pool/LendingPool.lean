import PalmyProtocol.Pool.LendingPoolCollateralManager

set_option autoImplicit false

namespace PalmyProtocol

open Checked Rounding

structure ExecuteBorrowParams where
  asset : Address
  user : Address
  onBehalfOf : Address
  amount : Nat
  interestRateMode : Nat
  lTokenAddress : Address
  releaseUnderlying : Bool

-- What the second loop of `flashLoan` knows about one asset; `modes` may be too short.
structure FlashLoanEntry where
  asset : Address
  amount : Nat
  premium : Nat
  lTokenAddress : Address
  mode : Option Nat
  deriving DecidableEq

namespace LendingPool

variable (env : Env) (pool : LendingPool)

def initialized (self : Address) (addressesProvider : AddressesProvider)
    (ledgers : Address → ERC20) : LendingPool where
  self
  addressesProvider
  reserves asset := .unlisted (ledgers asset)
  usersConfig _ := .empty
  reservesList _ := 0
  reservesCount := 0
  paused := false
  maxStableRateBorrowSizePercent := 2500
  flashLoanPremiumTotal := 9
  maxNumberOfReserves := 128

def whenNotPaused : Result Unit := require (pool.paused = false) Errors.LP_IS_PAUSED

def onlyLendingPoolConfigurator (msgSender : Address) : Result Unit :=
  require (pool.addressesProvider.lendingPoolConfigurator = msgSender)
    Errors.LP_CALLER_NOT_LENDING_POOL_CONFIGURATOR

def deposit (msgSender asset : Address) (amount : Nat) (onBehalfOf : Address) :
    Result LendingPool := do
  pool.whenNotPaused
  let reserve := pool.reserves asset
  ValidationLogic.validateDeposit reserve amount
  let lToken := reserve.lTokenAddress
  let reserve ← reserve.updateState env.timestamp
  let reserve ← reserve.updateInterestRates env asset lToken amount 0
  let reserve ← reserve.transferUnderlyingFrom pool.self msgSender lToken amount
  let (reserve, isFirstDeposit) ← reserve.mintLToken onBehalfOf amount
  let config ←
    (if isFirstDeposit then (pool.usersConfig onBehalfOf).setUsingAsCollateral reserve.id true
    else pure (pool.usersConfig onBehalfOf))
  pure ((pool.setReserve asset reserve).setUserConfig onBehalfOf config)

def withdraw (msgSender asset : Address) (amount : Nat) (recipient : Address) :
    Result (LendingPool × Nat) := do
  pool.whenNotPaused
  let reserve := pool.reserves asset
  let lToken := reserve.lTokenAddress
  let userBalance ← reserve.lTokenBalanceOf env.timestamp msgSender
  let amountToWithdraw := if amount = maxUint256 then userBalance else amount
  ValidationLogic.validateWithdraw env pool msgSender asset amountToWithdraw userBalance
  let reserve ← reserve.updateState env.timestamp
  let reserve ← reserve.updateInterestRates env asset lToken 0 amountToWithdraw
  let config ←
    (if amountToWithdraw = userBalance then
      (pool.usersConfig msgSender).setUsingAsCollateral reserve.id false
    else pure (pool.usersConfig msgSender))
  let reserve ← reserve.burnLToken msgSender recipient amountToWithdraw
  pure ((pool.setReserve asset reserve).setUserConfig msgSender config, amountToWithdraw)

-- The debt is minted before the rates are computed, and the underlying leaves after them.
def executeBorrow (vars : ExecuteBorrowParams) : Result LendingPool := do
  let reserve := pool.reserves vars.asset
  let amountInETH ← valueInETH (env.getAssetPrice vars.asset) vars.amount
    reserve.configuration.getDecimals
  ValidationLogic.validateBorrow env pool vars.asset vars.onBehalfOf vars.amount amountInETH
    vars.interestRateMode
  let reserve ← reserve.updateState env.timestamp
  let mode ← toInterestRateMode vars.interestRateMode
  let (reserve, isFirstBorrowing) ←
    (if mode = .STABLE then
      reserve.mintStableDebt env.timestamp vars.user vars.onBehalfOf vars.amount
        reserve.currentStableBorrowRate
    else reserve.mintVariableDebt vars.user vars.onBehalfOf vars.amount)
  let config ←
    (if isFirstBorrowing then (pool.usersConfig vars.onBehalfOf).setBorrowing reserve.id true
    else pure (pool.usersConfig vars.onBehalfOf))
  let reserve ← reserve.updateInterestRates env vars.asset vars.lTokenAddress 0
    (if vars.releaseUnderlying then vars.amount else 0)
  let reserve ←
    (if vars.releaseUnderlying then reserve.transferUnderlyingTo vars.user vars.amount
    else pure reserve)
  pure ((pool.setReserve vars.asset reserve).setUserConfig vars.onBehalfOf config)

def borrow (msgSender asset : Address) (amount interestRateMode : Nat) (onBehalfOf : Address) :
    Result LendingPool := do
  pool.whenNotPaused
  pool.executeBorrow env ⟨asset, msgSender, onBehalfOf, amount, interestRateMode,
    (pool.reserves asset).lTokenAddress, true⟩

def repay (msgSender asset : Address) (amount rateMode : Nat) (onBehalfOf : Address) :
    Result (LendingPool × Nat) := do
  pool.whenNotPaused
  let reserve := pool.reserves asset
  let (stableDebt, variableDebt) ← reserve.getUserCurrentDebt env.timestamp onBehalfOf
  let interestRateMode ← toInterestRateMode rateMode
  ValidationLogic.validateRepay reserve msgSender amount interestRateMode onBehalfOf stableDebt
    variableDebt
  let owed := if interestRateMode = .STABLE then stableDebt else variableDebt
  let paybackAmount := if amount < owed then amount else owed
  let reserve ← reserve.updateState env.timestamp
  let reserve ←
    (if interestRateMode = .STABLE then
      reserve.burnStableDebt env.timestamp onBehalfOf paybackAmount
    else reserve.burnVariableDebt onBehalfOf paybackAmount)
  let lToken := reserve.lTokenAddress
  let reserve ← reserve.updateInterestRates env asset lToken paybackAmount 0
  let debt ← SafeMath.add stableDebt variableDebt
  let remaining ← SafeMath.sub debt paybackAmount
  let config ←
    (if remaining = 0 then (pool.usersConfig onBehalfOf).setBorrowing reserve.id false
    else pure (pool.usersConfig onBehalfOf))
  let reserve ← reserve.transferUnderlyingFrom pool.self msgSender lToken paybackAmount
  pure ((pool.setReserve asset reserve).setUserConfig onBehalfOf config, paybackAmount)

def swapBorrowRateMode (msgSender asset : Address) (rateMode : Nat) : Result LendingPool := do
  pool.whenNotPaused
  let reserve := pool.reserves asset
  let (stableDebt, variableDebt) ← reserve.getUserCurrentDebt env.timestamp msgSender
  let interestRateMode ← toInterestRateMode rateMode
  ValidationLogic.validateSwapRateMode env pool reserve msgSender stableDebt variableDebt
    interestRateMode
  let reserve ← reserve.updateState env.timestamp
  let (reserve, _) ←
    (if interestRateMode = .STABLE then do
      let reserve ← reserve.burnStableDebt env.timestamp msgSender stableDebt
      reserve.mintVariableDebt msgSender msgSender stableDebt
    else do
      let reserve ← reserve.burnVariableDebt msgSender variableDebt
      reserve.mintStableDebt env.timestamp msgSender msgSender variableDebt
        reserve.currentStableBorrowRate)
  let reserve ← reserve.updateInterestRates env asset reserve.lTokenAddress 0 0
  pure (pool.setReserve asset reserve)

def rebalanceStableBorrowRate (asset user : Address) : Result LendingPool := do
  pool.whenNotPaused
  let reserve := pool.reserves asset
  let lTokenAddress := reserve.lTokenAddress
  let stableDebt ← reserve.stableDebtBalanceOf env.timestamp user
  ValidationLogic.validateRebalanceStableBorrowRate env reserve
  let reserve ← reserve.updateState env.timestamp
  let reserve ← reserve.burnStableDebt env.timestamp user stableDebt
  let (reserve, _) ← reserve.mintStableDebt env.timestamp user user stableDebt
    reserve.currentStableBorrowRate
  let reserve ← reserve.updateInterestRates env asset lTokenAddress 0 0
  pure (pool.setReserve asset reserve)

def setUserUseReserveAsCollateral (msgSender asset : Address) (useAsCollateral : Bool) :
    Result LendingPool := do
  pool.whenNotPaused
  ValidationLogic.validateSetUseReserveAsCollateral env pool msgSender asset useAsCollateral
  let config ←
    (pool.usersConfig msgSender).setUsingAsCollateral (pool.reserves asset).id useAsCollateral
  pure (pool.setUserConfig msgSender config)

-- A failed delegate call and a returned error code both revert.
def liquidationCall (msgSender collateralAsset debtAsset user : Address) (debtToCover : Nat)
    (receiveLToken : Bool) : Result LendingPool := do
  pool.whenNotPaused
  match LendingPoolCollateralManager.liquidationCall env pool msgSender collateralAsset debtAsset
    user debtToCover receiveLToken with
  | .error _ => .error Errors.LP_LIQUIDATION_CALL_FAILED
  | .ok (after, returnCode, returnMessage) => do
    require (returnCode = .NO_ERROR) returnMessage
    pure after

def flashLoanRequests (assets : List Address) (amounts modes : List Nat) :
    List (Address × Nat × Option Nat) :=
  (assets.zip amounts).zipIdx.map fun request => (request.1.1, request.1.2, modes[request.2]?)

-- The first loop: fix the premium of each entry and hand its amount to the receiver.
def openFlashLoan (receiverAddress : Address) :
    LendingPool → List (Address × Nat × Option Nat) → Result (LendingPool × List FlashLoanEntry)
  | pool, [] => .ok (pool, [])
  | pool, (asset, amount, mode) :: rest => do
    let reserve := pool.reserves asset
    let lTokenAddress := reserve.lTokenAddress
    let product ← SafeMath.mul amount pool.flashLoanPremiumTotal
    let premium ← SafeMath.div product 10000
    let reserve ← reserve.transferUnderlyingTo receiverAddress amount
    let (pool, entries) ← openFlashLoan receiverAddress (pool.setReserve asset reserve) rest
    pure (pool, ⟨asset, amount, premium, lTokenAddress, mode⟩ :: entries)

def settleFlashLoan (receiverAddress msgSender onBehalfOf : Address) (entry : FlashLoanEntry) :
    Result LendingPool := do
  let currentAmountPlusPremium ← SafeMath.add entry.amount entry.premium
  match entry.mode with
  | none => .error noMessage
  | some rateMode => do
    let mode ← toInterestRateMode rateMode
    if mode = .NONE then do
      let reserve ← (pool.reserves entry.asset).updateState env.timestamp
      let totalSupply ← reserve.lTokenTotalSupply env.timestamp
      let data ← reserve.toReserveData.cumulateToLiquidityIndex totalSupply entry.premium
      let reserve := { reserve with toReserveData := data }
      let reserve ← reserve.updateInterestRates env entry.asset entry.lTokenAddress
        currentAmountPlusPremium 0
      let reserve ← reserve.transferUnderlyingFrom pool.self receiverAddress entry.lTokenAddress
        currentAmountPlusPremium
      pure (pool.setReserve entry.asset reserve)
    else
      pool.executeBorrow env ⟨entry.asset, msgSender, onBehalfOf, entry.amount, rateMode,
        entry.lTokenAddress, false⟩

-- `executeOperation` stands for everything the receiver does, and what it returns.
def flashLoan (msgSender receiverAddress : Address) (assets : List Address)
    (amounts modes : List Nat) (onBehalfOf : Address)
    (executeOperation : LendingPool → Result (LendingPool × Bool)) : Result LendingPool := do
  pool.whenNotPaused
  ValidationLogic.validateFlashloan assets amounts
  let (pool, entries) ← openFlashLoan receiverAddress pool (flashLoanRequests assets amounts modes)
  let (pool, returned) ← executeOperation pool
  require returned Errors.LP_INVALID_FLASH_LOAN_EXECUTOR_RETURN
  entries.foldlM (fun pool entry =>
    pool.settleFlashLoan env receiverAddress msgSender onBehalfOf entry) pool

def finalizeTransfer (msgSender asset sender recipient : Address)
    (amount balanceFromBefore balanceToBefore : Nat) : Result LendingPool := do
  pool.whenNotPaused
  require (msgSender = (pool.reserves asset).lTokenAddress) Errors.LP_CALLER_MUST_BE_AN_LTOKEN
  ValidationLogic.validateTransfer env pool sender
  let reserveId := (pool.reserves asset).id
  if sender ≠ recipient then do
    let balanceFrom ← SafeMath.sub balanceFromBefore amount
    let fromConfig ←
      (if balanceFrom = 0 then (pool.usersConfig sender).setUsingAsCollateral reserveId false
      else pure (pool.usersConfig sender))
    let toConfig ←
      (if balanceToBefore = 0 ∧ amount ≠ 0 then
        (pool.usersConfig recipient).setUsingAsCollateral reserveId true
      else pure (pool.usersConfig recipient))
    pure ((pool.setUserConfig sender fromConfig).setUserConfig recipient toConfig)
  else pure pool

def addReserveToList (asset : Address) : Result LendingPool := do
  let reserve := pool.reserves asset
  require (pool.reservesCount < pool.maxNumberOfReserves) Errors.LP_NO_MORE_RESERVES_ALLOWED
  if reserve.id ≠ 0 ∨ pool.reservesList 0 = asset then do
    require (0 < pool.reservesCount) "999"
    pure pool
  else
    pure { pool.setReserve asset { reserve with id := pool.reservesCount % 2 ^ 8 } with
      reservesList := Function.update pool.reservesList pool.reservesCount asset
      reservesCount := pool.reservesCount + 1 }

-- The three tokens are fresh proxies; `treasury` is what the lToken was initialised with.
def initReserve (msgSender asset lTokenAddress stableDebtAddress variableDebtAddress : Address)
    (treasury : Address) (strategy : Option DefaultReserveInterestRateStrategy) :
    Result LendingPool := do
  pool.onlyLendingPoolConfigurator msgSender
  require (env.isContract asset) Errors.LP_NOT_CONTRACT
  let reserve := pool.reserves asset
  let data ←
    reserve.toReserveData.init lTokenAddress stableDebtAddress variableDebtAddress strategy
  let reserve := { reserve with
    toReserveData := data
    lToken := ⟨.empty, treasury⟩
    stableDebtToken := .empty
    variableDebtToken := .empty }
  (pool.setReserve asset reserve).addReserveToList asset

def setReserveInterestRateStrategyAddress (msgSender asset : Address)
    (rateStrategyAddress : Option DefaultReserveInterestRateStrategy) : Result LendingPool := do
  pool.onlyLendingPoolConfigurator msgSender
  pure (pool.setReserve asset { pool.reserves asset with
    interestRateStrategyAddress := rateStrategyAddress })

def setConfiguration (msgSender asset : Address) (configuration : ReserveConfigurationMap) :
    Result LendingPool := do
  pool.onlyLendingPoolConfigurator msgSender
  pure (pool.setReserve asset { pool.reserves asset with configuration })

def setPause (msgSender : Address) (val : Bool) : Result LendingPool := do
  pool.onlyLendingPoolConfigurator msgSender
  pure { pool with paused := val }

end LendingPool

end PalmyProtocol
