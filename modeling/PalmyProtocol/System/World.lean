import PalmyProtocol.Library.Runs
import PalmyProtocol.Pool.LendingPoolConfigurator
import PalmyProtocol.System.TokenCalls

set_option autoImplicit false

namespace PalmyProtocol

open Checked Runs

inductive Call where
  | deposit (asset : Address) (amount : Nat) (onBehalfOf : Address)
  | withdraw (asset : Address) (amount : Nat) (recipient : Address)
  | borrow (asset : Address) (amount interestRateMode : Nat) (onBehalfOf : Address)
  | repay (asset : Address) (amount rateMode : Nat) (onBehalfOf : Address)
  | swapBorrowRateMode (asset : Address) (rateMode : Nat)
  | rebalanceStableBorrowRate (asset user : Address)
  | setUserUseReserveAsCollateral (asset : Address) (useAsCollateral : Bool)
  | liquidationCall (collateralAsset debtAsset user : Address) (debtToCover : Nat)
      (receiveLToken : Bool)
  | transfer (asset recipient : Address) (amount : Nat)
  | transferFrom (asset sender recipient : Address) (amount : Nat)
  | approve (asset spender : Address) (amount : Nat)
  | increaseAllowance (asset spender : Address) (addedValue : Nat)
  | decreaseAllowance (asset spender : Address) (subtractedValue : Nat)
  | approveStableDelegation (asset delegatee : Address) (amount : Nat)
  | approveVariableDelegation (asset delegatee : Address) (amount : Nat)

inductive AdminCall where
  | batchInitReserve (input : List InitReserveInput)
  | enableBorrowingOnReserve (asset : Address) (stableBorrowRateEnabled : Bool)
  | disableBorrowingOnReserve (asset : Address)
  | configureReserveAsCollateral (asset : Address) (ltv liquidationThreshold liquidationBonus : Nat)
  | enableReserveStableRate (asset : Address)
  | disableReserveStableRate (asset : Address)
  | activateReserve (asset : Address)
  | deactivateReserve (asset : Address)
  | freezeReserve (asset : Address)
  | unfreezeReserve (asset : Address)
  | setReserveFactor (asset : Address) (reserveFactor : Nat)
  | setReserveInterestRateStrategyAddress (asset : Address)
      (rateStrategyAddress : Option DefaultReserveInterestRateStrategy)
  | setPoolPause (val : Bool)

-- A flash loan that has lent its amounts: first the receiver runs, then the entries are settled.
structure Frame where
  receiverAddress : Address
  msgSender : Address
  onBehalfOf : Address
  pending : List FlashLoanEntry
  settling : Bool

structure World where
  env : Env
  pool : LendingPool
  frames : List Frame

-- Between a `flashLoan` and its `executed`, other events are what the receiver makes happen.
inductive Event where
  | call (msgSender : Address) (call : Call)
  | admin (msgSender : Address) (call : AdminCall)
  | flashLoan (msgSender receiverAddress : Address) (assets : List Address)
      (amounts modes : List Nat) (onBehalfOf : Address)
  | executed
  | settle
  | finish
  | ledger (asset : Address) (underlying : ERC20)
  | observe (env : Env)

namespace Call

def execute (env : Env) (pool : LendingPool) (msgSender : Address) : Call → Result LendingPool
  | deposit asset amount onBehalfOf => pool.deposit env msgSender asset amount onBehalfOf
  | withdraw asset amount recipient => do
    let (pool, _) ← pool.withdraw env msgSender asset amount recipient
    pure pool
  | borrow asset amount interestRateMode onBehalfOf =>
    pool.borrow env msgSender asset amount interestRateMode onBehalfOf
  | repay asset amount rateMode onBehalfOf => do
    let (pool, _) ← pool.repay env msgSender asset amount rateMode onBehalfOf
    pure pool
  | swapBorrowRateMode asset rateMode => pool.swapBorrowRateMode env msgSender asset rateMode
  | rebalanceStableBorrowRate asset user => pool.rebalanceStableBorrowRate env asset user
  | setUserUseReserveAsCollateral asset useAsCollateral =>
    pool.setUserUseReserveAsCollateral env msgSender asset useAsCollateral
  | liquidationCall collateralAsset debtAsset user debtToCover receiveLToken =>
    pool.liquidationCall env msgSender collateralAsset debtAsset user debtToCover receiveLToken
  | transfer asset recipient amount => pool.transfer env msgSender asset recipient amount
  | transferFrom asset sender recipient amount =>
    pool.transferFrom env msgSender asset sender recipient amount
  | approve asset spender amount => pool.approve msgSender asset spender amount
  | increaseAllowance asset spender addedValue =>
    pool.increaseAllowance msgSender asset spender addedValue
  | decreaseAllowance asset spender subtractedValue =>
    pool.decreaseAllowance msgSender asset spender subtractedValue
  | approveStableDelegation asset delegatee amount =>
    pool.approveStableDelegation msgSender asset delegatee amount
  | approveVariableDelegation asset delegatee amount =>
    pool.approveVariableDelegation msgSender asset delegatee amount

end Call

namespace AdminCall

open LendingPoolConfigurator

def execute (env : Env) (pool : LendingPool) (msgSender : Address) : AdminCall → Result LendingPool
  | batchInitReserve input => LendingPoolConfigurator.batchInitReserve env pool msgSender input
  | enableBorrowingOnReserve asset stableBorrowRateEnabled =>
    LendingPoolConfigurator.enableBorrowingOnReserve pool msgSender asset stableBorrowRateEnabled
  | disableBorrowingOnReserve asset =>
    LendingPoolConfigurator.disableBorrowingOnReserve pool msgSender asset
  | configureReserveAsCollateral asset ltv liquidationThreshold liquidationBonus =>
    LendingPoolConfigurator.configureReserveAsCollateral pool msgSender asset ltv
      liquidationThreshold liquidationBonus
  | enableReserveStableRate asset =>
    LendingPoolConfigurator.enableReserveStableRate pool msgSender asset
  | disableReserveStableRate asset =>
    LendingPoolConfigurator.disableReserveStableRate pool msgSender asset
  | activateReserve asset => LendingPoolConfigurator.activateReserve pool msgSender asset
  | deactivateReserve asset => LendingPoolConfigurator.deactivateReserve pool msgSender asset
  | freezeReserve asset => LendingPoolConfigurator.freezeReserve pool msgSender asset
  | unfreezeReserve asset => LendingPoolConfigurator.unfreezeReserve pool msgSender asset
  | setReserveFactor asset reserveFactor =>
    LendingPoolConfigurator.setReserveFactor pool msgSender asset reserveFactor
  | setReserveInterestRateStrategyAddress asset rateStrategyAddress =>
    LendingPoolConfigurator.setReserveInterestRateStrategyAddress pool msgSender asset
      rateStrategyAddress
  | setPoolPause val => LendingPoolConfigurator.setPoolPause pool msgSender val

end AdminCall

namespace LendingPool

def IsProtocol (pool : LendingPool) (account : Address) : Prop :=
  account = pool.self ∨ ∃ i < pool.reservesCount,
    account = (pool.reserves (pool.reservesList i)).lTokenAddress ∨
    account = (pool.reserves (pool.reservesList i)).stableDebtTokenAddress ∨
    account = (pool.reserves (pool.reservesList i)).variableDebtTokenAddress

instance (pool : LendingPool) (account : Address) : Decidable (pool.IsProtocol account) :=
  inferInstanceAs (Decidable (_ ∨ _))

end LendingPool

namespace World

variable (world : World)

def idle : Bool :=
  match world.frames with
  | [] => true
  | frame :: _ => frame.settling = false

def withPool (pool : LendingPool) : World := { world with pool }

def flashLoan (msgSender receiverAddress : Address) (assets : List Address)
    (amounts modes : List Nat) (onBehalfOf : Address) : Result World := do
  world.pool.whenNotPaused
  ValidationLogic.validateFlashloan assets amounts
  let (pool, pending) ← LendingPool.openFlashLoan receiverAddress world.pool
    (LendingPool.flashLoanRequests assets amounts modes)
  let frame := { receiverAddress, msgSender, onBehalfOf, pending, settling := false }
  pure { world with pool, frames := frame :: world.frames }

def step : Event → Result World
  | .call msgSender call => do
    require (world.idle ∧ ¬world.pool.IsProtocol msgSender) noMessage
    let pool ← call.execute world.env world.pool msgSender
    pure (world.withPool pool)
  | .admin msgSender call => do
    require world.idle noMessage
    let pool ← call.execute world.env world.pool msgSender
    pure (world.withPool pool)
  | .flashLoan msgSender receiverAddress assets amounts modes onBehalfOf => do
    require (world.idle ∧ ¬world.pool.IsProtocol msgSender ∧
      ¬world.pool.IsProtocol receiverAddress) noMessage
    world.flashLoan msgSender receiverAddress assets amounts modes onBehalfOf
  | .executed =>
    match world.frames with
    | [] => .error noMessage
    | frame :: rest => do
      require (frame.settling = false) noMessage
      pure { world with frames := { frame with settling := true } :: rest }
  | .settle =>
    match world.frames with
    | [] => .error noMessage
    | frame :: rest =>
      match frame.pending with
      | [] => .error noMessage
      | entry :: pending => do
        require frame.settling noMessage
        let pool ← world.pool.settleFlashLoan world.env frame.receiverAddress frame.msgSender
          frame.onBehalfOf entry
        pure { world with pool, frames := { frame with pending } :: rest }
  | .finish =>
    match world.frames with
    | [] => .error noMessage
    | frame :: rest => do
      require (frame.settling ∧ frame.pending.isEmpty) noMessage
      pure { world with frames := rest }
  -- the asset's own traffic: only the lToken can spend what the lToken holds
  | .ledger asset underlying => do
    let reserve := world.pool.reserves asset
    require (world.idle ∧
      reserve.availableLiquidity ≤ underlying.balances reserve.lTokenAddress) noMessage
    pure (world.withPool (world.pool.setReserve asset { reserve with underlying }))
  -- prices may move at any time, the clock only between transactions
  | .observe env => do
    require (world.idle ∧ world.env.timestamp ≤ env.timestamp ∧
      (world.frames.isEmpty ∨ env.timestamp = world.env.timestamp)) noMessage
    pure { world with env }

def Initial : Prop :=
  world.frames = [] ∧ ∃ self addressesProvider ledgers,
    world.pool = .initialized self addressesProvider ledgers

def Reachable : Prop := Runs.Reachable step Initial world

end World

namespace Market

def strategy : DefaultReserveInterestRateStrategy :=
  ⟨RAY / 100 * 80, 0, RAY / 100 * 4, RAY / 100 * 75, RAY / 100 * 2, RAY / 100 * 75, by decide⟩

def env (timestamp : Nat) (small : timestamp < 2 ^ 40) : Env where
  timestamp
  timestamp_lt := small
  isContract a := a != 0
  zero_not_contract := rfl
  getAssetPrice _ := .ok WAD
  getMarketBorrowRate _ := .ok (RAY / 100)

def ledger : ERC20 :=
  ⟨fun account => if 100 ≤ account then 10 ^ 30 else 0, fun _ _ => 10 ^ 40, 10 ^ 40⟩

theorem launch_in_time : 1 < 2 ^ 40 := by decide

theorem second_in_time : 2 < 2 ^ 40 := by decide

theorem year_in_time : 31536001 < 2 ^ 40 := by decide

def start : World where
  env := env 1 launch_in_time
  pool := .initialized 1 ⟨2, 3, 4⟩ fun _ => ledger
  frames := []

-- The tokens of an asset live at the three addresses after its own.
def listing (asset : Address) (strategy : DefaultReserveInterestRateStrategy) : InitReserveInput where
  proxies := ⟨asset + 1, asset + 2, asset + 3, Nat.succ_ne_zero _, Nat.succ_ne_zero _,
    Nat.succ_ne_zero _⟩
  interestRateStrategyAddress := some strategy
  underlyingAsset := asset
  underlyingAssetDecimals := 18
  treasury := 99

def opening (asset : Address) (strategy : DefaultReserveInterestRateStrategy) : List Event :=
  [.admin 3 (.batchInitReserve [listing asset strategy]),
    .admin 3 (.configureReserveAsCollateral asset 7500 8000 10500),
    .admin 3 (.enableBorrowingOnReserve asset true)]

theorem start_initial : start.Initial := ⟨rfl, 1, ⟨2, 3, 4⟩, fun _ => ledger, rfl⟩

theorem reachable_of_run {events : List Event} {world : World}
    (ran : run World.step start events = .ok world) : world.Reachable :=
  ⟨start, events, start_initial, ran⟩

end Market

end PalmyProtocol
