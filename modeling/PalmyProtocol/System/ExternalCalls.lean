import PalmyProtocol.System.World

set_option autoImplicit false

namespace PalmyProtocol

open Checked

inductive LTokenCall where
  | initializer
  | mint (user : Address) (amount index : Nat)
  | burn (user receiverOfUnderlying : Address) (amount index : Nat)
  | mintToTreasury (amount index : Nat)
  | transferOnLiquidation (sender recipient : Address) (value : Nat)
  | transferUnderlyingTo (target : Address) (amount : Nat)
  | handleRepayment (user : Address) (amount : Nat)
  -- `signer` is whom `ecrecover` finds in the signature, made over the owner's current nonce
  | permit (owner spender : Address) (value deadline : Nat) (signer : Address)

inductive DebtTokenCall where
  | initializer
  | mint (user onBehalfOf : Address) (amount rateOrIndex : Nat)
  | burn (user : Address) (amount index : Nat)
  | transfer (recipient : Address) (amount : Nat)
  | approve (spender : Address) (amount : Nat)
  | transferFrom (sender recipient : Address) (amount : Nat)
  | increaseAllowance (spender : Address) (addedValue : Nat)
  | decreaseAllowance (spender : Address) (subtractedValue : Nat)

-- Every function that changes state and that anyone can try on the pool or on a token of an asset.
inductive ExternalCall where
  | user (call : Call)
  | flashLoan (receiverAddress : Address) (assets : List Address) (amounts modes : List Nat)
      (onBehalfOf : Address) (executeOperation : LendingPool → Result (LendingPool × Bool))
  | finalizeTransfer (asset sender recipient : Address)
      (amount balanceFromBefore balanceToBefore : Nat)
  | initializer
  | initReserve (asset lTokenAddress stableDebtAddress variableDebtAddress treasury : Address)
      (strategy : Option DefaultReserveInterestRateStrategy)
  | setReserveInterestRateStrategyAddress (asset : Address)
      (rateStrategyAddress : Option DefaultReserveInterestRateStrategy)
  | setConfiguration (asset : Address) (configuration : ReserveConfigurationMap)
  | setPause (val : Bool)
  | lToken (asset : Address) (call : LTokenCall)
  | stableDebtToken (asset : Address) (call : DebtTokenCall)
  | variableDebtToken (asset : Address) (call : DebtTokenCall)

namespace LendingPool

variable (env : Env) (pool : LendingPool) (msgSender : Address)

def onlyLendingPool : Result Unit :=
  require (msgSender = pool.self) Errors.CT_CALLER_MUST_BE_LENDING_POOL

-- The revision has not changed since the proxy initialised the contract.
def alreadyInitialized : Result LendingPool :=
  .error "Contract instance has already been initialized"

end LendingPool

namespace LTokenCall

def execute (env : Env) (pool : LendingPool) (msgSender asset : Address) :
    LTokenCall → Result LendingPool
  | initializer => LendingPool.alreadyInitialized
  | mint user amount index => do
    pool.onlyLendingPool msgSender
    let reserve := pool.reserves asset
    let (lToken, _) ← reserve.lToken.mint user amount index
    pure (pool.setReserve asset { reserve with lToken })
  | burn user receiverOfUnderlying amount index => do
    pool.onlyLendingPool msgSender
    let reserve := pool.reserves asset
    let lToken ← reserve.lToken.burn user amount index
    let underlying ← reserve.underlying.transfer reserve.lTokenAddress receiverOfUnderlying amount
    pure (pool.setReserve asset { reserve with lToken, underlying })
  | mintToTreasury amount index => do
    pool.onlyLendingPool msgSender
    let reserve := pool.reserves asset
    let lToken ← reserve.lToken.mintToTreasury amount index
    pure (pool.setReserve asset { reserve with lToken })
  | transferOnLiquidation sender recipient value => do
    pool.onlyLendingPool msgSender
    let reserve := pool.reserves asset
    let (lToken, _, _) ← reserve.lToken.transfer (reserve.getNormalizedIncome env.timestamp)
      sender recipient value
    pure (pool.setReserve asset { reserve with lToken })
  | transferUnderlyingTo target amount => do
    pool.onlyLendingPool msgSender
    let reserve ← (pool.reserves asset).transferUnderlyingTo target amount
    pure (pool.setReserve asset reserve)
  | handleRepayment _ _ => do
    pool.onlyLendingPool msgSender
    pure pool
  | permit owner spender value deadline signer => do
    require (owner ≠ 0) "INVALID_OWNER"
    require (env.timestamp ≤ deadline) "INVALID_EXPIRATION"
    require (owner = signer) "INVALID_SIGNATURE"
    pool.approve owner asset spender value

end LTokenCall

namespace DebtTokenCall

-- Neither debt token can be moved: `mint` and `burn` are the token's own.
def execute (pool : LendingPool) (msgSender : Address)
    (mintDebt : Address → Address → Nat → Nat → Result LendingPool)
    (burnDebt : Address → Nat → Nat → Result LendingPool) : DebtTokenCall → Result LendingPool
  | initializer => LendingPool.alreadyInitialized
  | mint user onBehalfOf amount rateOrIndex => do
    pool.onlyLendingPool msgSender
    mintDebt user onBehalfOf amount rateOrIndex
  | burn user amount index => do
    pool.onlyLendingPool msgSender
    burnDebt user amount index
  | transfer _ _ | transferFrom _ _ _ => .error "TRANSFER_NOT_SUPPORTED"
  | approve _ _ => .error "APPROVAL_NOT_SUPPORTED"
  | increaseAllowance _ _ | decreaseAllowance _ _ => .error "ALLOWANCE_NOT_SUPPORTED"

def executeStable (env : Env) (pool : LendingPool) (msgSender asset : Address) :
    DebtTokenCall → Result LendingPool :=
  execute pool msgSender
    (fun user onBehalfOf amount rate => do
      let (reserve, _) ←
        (pool.reserves asset).mintStableDebt env.timestamp user onBehalfOf amount rate
      pure (pool.setReserve asset reserve))
    (fun user amount _ => do
      let reserve ← (pool.reserves asset).burnStableDebt env.timestamp user amount
      pure (pool.setReserve asset reserve))

def executeVariable (pool : LendingPool) (msgSender asset : Address) :
    DebtTokenCall → Result LendingPool :=
  execute pool msgSender
    (fun user onBehalfOf amount index => do
      let reserve := pool.reserves asset
      let (variableDebtToken, _) ← reserve.variableDebtToken.mint user onBehalfOf amount index
      pure (pool.setReserve asset { reserve with variableDebtToken }))
    (fun user amount index => do
      let reserve := pool.reserves asset
      let variableDebtToken ← reserve.variableDebtToken.burn user amount index
      pure (pool.setReserve asset { reserve with variableDebtToken }))

end DebtTokenCall

namespace ExternalCall

def execute (env : Env) (pool : LendingPool) (msgSender : Address) :
    ExternalCall → Result LendingPool
  | user call => call.execute env pool msgSender
  | flashLoan receiverAddress assets amounts modes onBehalfOf executeOperation =>
    pool.flashLoan env msgSender receiverAddress assets amounts modes onBehalfOf executeOperation
  | finalizeTransfer asset sender recipient amount balanceFromBefore balanceToBefore =>
    pool.finalizeTransfer env msgSender asset sender recipient amount balanceFromBefore
      balanceToBefore
  | initializer => LendingPool.alreadyInitialized
  | initReserve asset lTokenAddress stableDebtAddress variableDebtAddress treasury strategy =>
    pool.initReserve env msgSender asset lTokenAddress stableDebtAddress variableDebtAddress
      treasury strategy
  | setReserveInterestRateStrategyAddress asset rateStrategyAddress =>
    pool.setReserveInterestRateStrategyAddress msgSender asset rateStrategyAddress
  | setConfiguration asset configuration => pool.setConfiguration msgSender asset configuration
  | setPause val => pool.setPause msgSender val
  | lToken asset call => do
    require ((pool.reserves asset).lTokenAddress ≠ 0) noMessage
    call.execute env pool msgSender asset
  | stableDebtToken asset call => do
    require ((pool.reserves asset).stableDebtTokenAddress ≠ 0) noMessage
    call.executeStable env pool msgSender asset
  | variableDebtToken asset call => do
    require ((pool.reserves asset).variableDebtTokenAddress ≠ 0) noMessage
    call.executeVariable pool msgSender asset

def administers : ExternalCall → Bool
  | initReserve .. | setReserveInterestRateStrategyAddress .. | setConfiguration .. |
    setPause .. => true
  | _ => false

end ExternalCall

end PalmyProtocol
