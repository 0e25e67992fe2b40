import PalmyProtocol.System.Registry

set_option autoImplicit false

namespace PalmyProtocol

open Checked Rounding

inductive Implementation where
  | lendingPool
  | lendingPoolTmp
  | lendingPoolV4
  deriving DecidableEq

namespace LendingPoolTmp

-- The addresses are overwritten: no index starts at one and no earlier listing is refused.
def initReserve (env : Env) (pool : LendingPool)
    (msgSender asset lTokenAddress stableDebtAddress variableDebtAddress treasury : Address)
    (strategy : Option DefaultReserveInterestRateStrategy) : Result LendingPool := do
  pool.onlyLendingPoolConfigurator msgSender
  require (env.isContract asset) Errors.LP_NOT_CONTRACT
  let reserve := { pool.reserves asset with
    stableDebtTokenAddress := stableDebtAddress
    lTokenAddress
    variableDebtTokenAddress := variableDebtAddress
    interestRateStrategyAddress := strategy
    lToken := ⟨.empty, treasury⟩
    stableDebtToken := .empty
    variableDebtToken := .empty }
  (pool.setReserve asset reserve).addReserveToList asset

end LendingPoolTmp

namespace Implementation

variable (implementation : Implementation)

def LENDINGPOOL_REVISION : Implementation → Nat
  | lendingPool => 2
  | lendingPoolTmp => 3
  | lendingPoolV4 => 4

def initReserve (env : Env) (pool : LendingPool) :
    Address → Address → Address → Address → Address → Address →
      Option DefaultReserveInterestRateStrategy → Result LendingPool :=
  match implementation with
  | lendingPoolTmp => LendingPoolTmp.initReserve env pool
  | lendingPool | lendingPoolV4 => pool.initReserve env

end Implementation

namespace LendingPoolConfigurator

def initReserveWith (implementation : Implementation) (env : Env) (pool : LendingPool)
    (input : InitReserveInput) : Result LendingPool := do
  require (input.treasury ≠ 0) "treasury address cannot be empty"
  require (input.underlyingAsset ≠ 0) "underlyingAsset address cannot be empty"
  require (pool.self ≠ 0) "pool address cannot be empty"
  let pool ← implementation.initReserve env pool pool.addressesProvider.lendingPoolConfigurator
    input.underlyingAsset input.proxies.lToken input.proxies.stableDebtToken
    input.proxies.variableDebtToken input.treasury input.interestRateStrategyAddress
  let currentConfig ←
    (pool.reserves input.underlyingAsset).configuration.setDecimals input.underlyingAssetDecimals
  setConfiguration pool input.underlyingAsset ((currentConfig.setActive true).setFrozen false)

theorem initReserveWith_guarded {implementation : Implementation}
    (guarded : implementation ≠ .lendingPoolTmp) :
    initReserveWith implementation = initReserve := by
  cases implementation with
  | lendingPool | lendingPoolV4 => rfl
  | lendingPoolTmp => exact absurd rfl guarded

end LendingPoolConfigurator

def LendingPool.initializeRevision (pool : LendingPool) (provider : AddressesProvider) : LendingPool :=
  { pool with
    addressesProvider := provider
    maxStableRateBorrowSizePercent := 2500
    flashLoanPremiumTotal := 9
    maxNumberOfReserves := 128 }

-- The pool behind its proxy. An lToken that a new listing replaced lives on at its address, where
-- no call can change its supply any more.
structure Deployment where
  world : World
  implementation : Implementation
  lastInitializedRevision : Nat
  retired : Address → LToken

inductive DeploymentEvent where
  | world (event : Event)
  | upgrade (implementation : Implementation)

namespace Deployment

variable (deployment : Deployment)

-- A loan of a replaced lToken goes back to that lToken, whose supply its premium is shared by.
def payBackRetired (env : Env) (pool : LendingPool) (receiverAddress : Address) (lent : LToken)
    (entry : FlashLoanEntry) : Result LendingPool := do
  let currentAmountPlusPremium ← SafeMath.add entry.amount entry.premium
  let reserve ← (pool.reserves entry.asset).updateState env.timestamp
  let totalSupply ← lent.totalSupply (reserve.getNormalizedIncome env.timestamp)
  let data ← reserve.toReserveData.cumulateToLiquidityIndex totalSupply entry.premium
  let reserve := { reserve with toReserveData := data }
  let reserve ← reserve.updateInterestRates env entry.asset entry.lTokenAddress
    currentAmountPlusPremium 0
  let reserve ← reserve.transferUnderlyingFrom pool.self receiverAddress entry.lTokenAddress
    currentAmountPlusPremium
  pure (pool.setReserve entry.asset reserve)

def settleFlashLoan (env : Env) (pool : LendingPool) (frame : Frame) (entry : FlashLoanEntry) :
    Result LendingPool :=
  if (pool.reserves entry.asset).lTokenAddress ≠ entry.lTokenAddress ∧ entry.mode = some 0 then
    payBackRetired env pool frame.receiverAddress (deployment.retired entry.lTokenAddress) entry
  else
    pool.settleFlashLoan env frame.receiverAddress frame.msgSender frame.onBehalfOf entry

def batchInitReserve (msgSender : Address) (input : List InitReserveInput) :
    Result Deployment := do
  let world := deployment.world
  require world.idle noMessage
  LendingPoolConfigurator.onlyPoolAdmin world.pool msgSender
  let pool ← input.foldlM
    (LendingPoolConfigurator.initReserveWith deployment.implementation world.env) world.pool
  let retired := input.foldl (fun retired listing =>
    let reserve := world.pool.reserves listing.underlyingAsset
    Function.update retired reserve.lTokenAddress reserve.lToken) deployment.retired
  pure { deployment with world := world.withPool pool, retired }

def step : DeploymentEvent → Result Deployment
  | .world (.admin msgSender (.batchInitReserve input)) =>
    deployment.batchInitReserve msgSender input
  | .world .settle =>
    match deployment.world.frames with
    | [] => .error noMessage
    | frame :: rest =>
      match frame.pending with
      | [] => .error noMessage
      | entry :: pending => do
        require frame.settling noMessage
        let pool ← deployment.settleFlashLoan deployment.world.env deployment.world.pool frame entry
        let frames := { frame with pending } :: rest
        pure { deployment with world := { deployment.world with pool, frames } }
  | .world event => do
    let world ← deployment.world.step event
    pure { deployment with world }
  -- the owner of the provider: a flash loan under way goes on in the code it started in
  | .upgrade implementation => do
    let world := deployment.world
    require world.idle noMessage
    require (deployment.lastInitializedRevision < implementation.LENDINGPOOL_REVISION)
      "Contract instance has already been initialized"
    pure { deployment with
      implementation
      lastInitializedRevision := implementation.LENDINGPOOL_REVISION
      world := world.withPool (world.pool.initializeRevision world.pool.addressesProvider) }

def Initial : Prop :=
  deployment.world.Initial ∧
    deployment.lastInitializedRevision = deployment.implementation.LENDINGPOOL_REVISION

def Reachable : Prop := Runs.Reachable step Initial deployment

end Deployment

namespace Market

def deployed : Deployment where
  world := start
  implementation := .lendingPool
  lastInitializedRevision := 2
  retired _ := ⟨.empty, 99⟩

def relisting (asset : Address) (strategy : DefaultReserveInterestRateStrategy) :
    InitReserveInput :=
  { listing asset strategy with
    proxies := ⟨asset + 4, asset + 5, asset + 6, Nat.succ_ne_zero _, Nat.succ_ne_zero _,
      Nat.succ_ne_zero _⟩ }

theorem deployed_initial : deployed.Initial := ⟨start_initial, rfl⟩

end Market

end PalmyProtocol
