import PalmyProtocol.Pool.LendingPool

set_option autoImplicit false

namespace PalmyProtocol

open Checked Rounding

structure TokenProxies where
  lToken : Address
  stableDebtToken : Address
  variableDebtToken : Address
  lToken_ne : lToken ≠ 0
  stableDebtToken_ne : stableDebtToken ≠ 0
  variableDebtToken_ne : variableDebtToken ≠ 0

structure InitReserveInput where
  proxies : TokenProxies
  interestRateStrategyAddress : Option DefaultReserveInterestRateStrategy
  underlyingAsset : Address
  underlyingAssetDecimals : Nat
  treasury : Address

namespace LendingPoolConfigurator

variable (env : Env) (pool : LendingPool)

def onlyPoolAdmin (msgSender : Address) : Result Unit :=
  require (pool.addressesProvider.poolAdmin = msgSender) Errors.CALLER_NOT_POOL_ADMIN

def onlyEmergencyAdmin (msgSender : Address) : Result Unit :=
  require (pool.addressesProvider.emergencyAdmin = msgSender) Errors.LPC_CALLER_NOT_EMERGENCY_ADMIN

def setConfiguration (asset : Address) (configuration : ReserveConfigurationMap) :
    Result LendingPool :=
  pool.setConfiguration pool.addressesProvider.lendingPoolConfigurator asset configuration

def initReserve (input : InitReserveInput) : Result LendingPool := do
  require (input.treasury ≠ 0) "treasury address cannot be empty"
  require (input.underlyingAsset ≠ 0) "underlyingAsset address cannot be empty"
  require (pool.self ≠ 0) "pool address cannot be empty"
  let pool ← pool.initReserve env pool.addressesProvider.lendingPoolConfigurator
    input.underlyingAsset input.proxies.lToken input.proxies.stableDebtToken
    input.proxies.variableDebtToken input.treasury input.interestRateStrategyAddress
  let currentConfig ←
    (pool.reserves input.underlyingAsset).configuration.setDecimals input.underlyingAssetDecimals
  setConfiguration pool input.underlyingAsset ((currentConfig.setActive true).setFrozen false)

def batchInitReserve (msgSender : Address) (input : List InitReserveInput) :
    Result LendingPool := do
  onlyPoolAdmin pool msgSender
  input.foldlM (initReserve env) pool

-- Every one-reserve setter reads the word, changes it and hands it back to the pool.
def updateConfiguration (msgSender asset : Address)
    (change : ReserveConfigurationMap → Result ReserveConfigurationMap) : Result LendingPool := do
  onlyPoolAdmin pool msgSender
  let currentConfig ← change (pool.reserves asset).configuration
  setConfiguration pool asset currentConfig

def checkNoLiquidity (asset : Address) : Result Unit := do
  let reserveData := pool.reserves asset
  require (reserveData.availableLiquidity = 0 ∧ reserveData.currentLiquidityRate = 0)
    Errors.LPC_RESERVE_LIQUIDITY_NOT_0

def enableBorrowingOnReserve (msgSender asset : Address) (stableBorrowRateEnabled : Bool) :=
  updateConfiguration pool msgSender asset fun config =>
    .ok ((config.setBorrowingEnabled true).setStableRateBorrowingEnabled stableBorrowRateEnabled)

def disableBorrowingOnReserve (msgSender asset : Address) :=
  updateConfiguration pool msgSender asset fun config => .ok (config.setBorrowingEnabled false)

def enableReserveStableRate (msgSender asset : Address) :=
  updateConfiguration pool msgSender asset fun config =>
    .ok (config.setStableRateBorrowingEnabled true)

def disableReserveStableRate (msgSender asset : Address) :=
  updateConfiguration pool msgSender asset fun config =>
    .ok (config.setStableRateBorrowingEnabled false)

def activateReserve (msgSender asset : Address) :=
  updateConfiguration pool msgSender asset fun config => .ok (config.setActive true)

def deactivateReserve (msgSender asset : Address) :=
  updateConfiguration pool msgSender asset fun config => do
    checkNoLiquidity pool asset
    pure (config.setActive false)

def freezeReserve (msgSender asset : Address) :=
  updateConfiguration pool msgSender asset fun config => .ok (config.setFrozen true)

def unfreezeReserve (msgSender asset : Address) :=
  updateConfiguration pool msgSender asset fun config => .ok (config.setFrozen false)

def setReserveFactor (msgSender asset : Address) (reserveFactor : Nat) :=
  updateConfiguration pool msgSender asset fun config => config.setReserveFactor reserveFactor

def checkCollateral (asset : Address) (ltv liquidationThreshold liquidationBonus : Nat) :
    Result Unit := do
  require (ltv ≤ liquidationThreshold) Errors.LPC_INVALID_CONFIGURATION
  if liquidationThreshold ≠ 0 then do
    require (PERCENTAGE_FACTOR < liquidationBonus) Errors.LPC_INVALID_CONFIGURATION
    let product ← percentMul liquidationThreshold liquidationBonus
    require (product ≤ PERCENTAGE_FACTOR) Errors.LPC_INVALID_CONFIGURATION
  else do
    require (liquidationBonus = 0) Errors.LPC_INVALID_CONFIGURATION
    checkNoLiquidity pool asset

def configureReserveAsCollateral (msgSender asset : Address)
    (ltv liquidationThreshold liquidationBonus : Nat) :=
  updateConfiguration pool msgSender asset fun config => do
    checkCollateral pool asset ltv liquidationThreshold liquidationBonus
    let config ← config.setLtv ltv
    let config ← config.setLiquidationThreshold liquidationThreshold
    config.setLiquidationBonus liquidationBonus

def setReserveInterestRateStrategyAddress (msgSender asset : Address)
    (rateStrategyAddress : Option DefaultReserveInterestRateStrategy) : Result LendingPool := do
  onlyPoolAdmin pool msgSender
  pool.setReserveInterestRateStrategyAddress pool.addressesProvider.lendingPoolConfigurator asset
    rateStrategyAddress

def setPoolPause (msgSender : Address) (val : Bool) : Result LendingPool := do
  onlyEmergencyAdmin pool msgSender
  pool.setPause pool.addressesProvider.lendingPoolConfigurator val

end LendingPoolConfigurator

end PalmyProtocol
