import PalmyProtocol.Pool.LendingPoolConfigurator
import PalmyProtocol.System.TokenCalls
import Mathlib.Logic.Relation

set_option autoImplicit false

namespace PalmyProtocol

open Checked Rounding

-- The smallest changes that the pool makes to a reserve: each of its operations is a sequence of
-- them on each reserve.
inductive Reserve.Operation (env : Env) (reserve : Reserve) : Reserve → Prop where
  | accrue {after : Reserve} (computed : reserve.updateState env.timestamp = .ok after) :
      Operation env reserve after
  | rate {asset lTokenAddress : Address} {liquidityAdded liquidityTaken : Nat} {after : Reserve}
      (computed : reserve.updateInterestRates env asset lTokenAddress liquidityAdded
        liquidityTaken = .ok after) :
      Operation env reserve after
  | income {totalSupply premium : Nat} {data : ReserveData}
      (computed : reserve.toReserveData.cumulateToLiquidityIndex totalSupply premium = .ok data) :
      Operation env reserve { reserve with toReserveData := data }
  | fund {spender sender recipient : Address} {amount : Nat} {after : Reserve}
      (computed : reserve.transferUnderlyingFrom spender sender recipient amount = .ok after) :
      Operation env reserve after
  | release {target : Address} {amount : Nat} {after : Reserve}
      (computed : reserve.transferUnderlyingTo target amount = .ok after) : Operation env reserve after
  | mintLToken {user : Address} {amount : Nat} {first : Bool} {after : Reserve}
      (computed : reserve.mintLToken user amount = .ok (after, first)) : Operation env reserve after
  | burnLToken {user receiver : Address} {amount : Nat} {after : Reserve}
      (computed : reserve.burnLToken user receiver amount = .ok after) : Operation env reserve after
  | moveLTokens {sender recipient : Address} {amount fromBefore toBefore : Nat} {lToken : LToken}
      (computed : reserve.lToken.transfer (reserve.getNormalizedIncome env.timestamp) sender
        recipient amount = .ok (lToken, fromBefore, toBefore)) :
      Operation env reserve { reserve with lToken }
  | allow {base : ERC20} (balances : base.balances = reserve.lToken.base.balances)
      (supply : base.totalSupply = reserve.lToken.base.totalSupply) :
      Operation env reserve { reserve with lToken := { reserve.lToken with base } }
  | mintStableDebt {user onBehalfOf : Address} {amount : Nat} {first : Bool} {after : Reserve}
      (current : reserve.lastUpdateTimestamp = env.timestamp)
      (computed : reserve.mintStableDebt env.timestamp user onBehalfOf amount
        reserve.currentStableBorrowRate = .ok (after, first)) : Operation env reserve after
  | burnStableDebt {user : Address} {amount : Nat} {after : Reserve}
      (current : reserve.lastUpdateTimestamp = env.timestamp)
      (computed : reserve.burnStableDebt env.timestamp user amount = .ok after) :
      Operation env reserve after
  | mintVariableDebt {user onBehalfOf : Address} {amount : Nat} {first : Bool} {after : Reserve}
      (current : reserve.lastUpdateTimestamp = env.timestamp)
      (computed : reserve.mintVariableDebt user onBehalfOf amount = .ok (after, first)) :
      Operation env reserve after
  | burnVariableDebt {user : Address} {amount : Nat} {after : Reserve}
      (current : reserve.lastUpdateTimestamp = env.timestamp)
      (computed : reserve.burnVariableDebt user amount = .ok after) : Operation env reserve after
  | delegateStable (borrowAllowances : DebtTokenBase.BorrowAllowances) :
      Operation env reserve
        { reserve with stableDebtToken := { reserve.stableDebtToken with borrowAllowances } }
  | delegateVariable (borrowAllowances : DebtTokenBase.BorrowAllowances) :
      Operation env reserve
        { reserve with variableDebtToken := { reserve.variableDebtToken with borrowAllowances } }

abbrev Reserve.Operations (env : Env) : Reserve → Reserve → Prop :=
  Relation.ReflTransGen (Reserve.Operation env)

inductive Reserve.Step (env : Env) (reserve : Reserve) : Reserve → Prop where
  | operation {after : Reserve} (operation : Reserve.Operation env reserve after) :
      Step env reserve after
  | ledger {underlying : ERC20}
      (kept : reserve.availableLiquidity ≤ underlying.balances reserve.lTokenAddress) :
      Step env reserve { reserve with underlying }
  | configure (configuration : ReserveConfigurationMap) :
      Step env reserve { reserve with configuration }
  | choose (interestRateStrategyAddress : Option DefaultReserveInterestRateStrategy) :
      Step env reserve { reserve with interestRateStrategyAddress }

abbrev Reserve.Steps (env : Env) : Reserve → Reserve → Prop :=
  Relation.ReflTransGen (Reserve.Step env)

structure Reserve.SameSettings (reserve after : Reserve) : Prop where
  configuration : after.configuration = reserve.configuration
  strategy : after.interestRateStrategyAddress = reserve.interestRateStrategyAddress

-- What an operation does to the reserve's own data: an accrual, new rates, a premium, or nothing.
inductive Reserve.Moved (env : Env) (reserve after : Reserve) : Prop where
  | accrue (computed : reserve.updateState env.timestamp = .ok after)
  | rate {liquidityRate stableRate variableRate : Nat}
      (data : after.toReserveData = { reserve.toReserveData with
        currentLiquidityRate := liquidityRate
        currentStableBorrowRate := stableRate
        currentVariableBorrowRate := variableRate })
      (stable : after.stableDebtToken = reserve.stableDebtToken)
  | income {totalSupply premium : Nat}
      (computed : reserve.toReserveData.cumulateToLiquidityIndex totalSupply premium =
        .ok after.toReserveData)
      (stable : after.stableDebtToken = reserve.stableDebtToken)
  | keep (data : after.toReserveData = reserve.toReserveData)
      (stamp : after.stableDebtToken.totalSupplyTimestamp =
          reserve.stableDebtToken.totalSupplyTimestamp ∨
        (reserve.lastUpdateTimestamp = env.timestamp ∧
          after.stableDebtToken.totalSupplyTimestamp = env.timestamp))

theorem Reserve.Operation.moved {env : Env} {reserve after : Reserve}
    (operation : Reserve.Operation env reserve after) : Reserve.Moved env reserve after := by
  cases operation with
  | accrue computed => exact .accrue computed
  | rate computed =>
      obtain ⟨_, _, _, _, run⟩ := updateInterestRates_ok computed
      rw [run.result]
      exact .rate rfl rfl
  | income computed => exact .income computed rfl
  | fund computed =>
      obtain ⟨_, _, rfl⟩ := transferUnderlyingFrom_ok computed
      exact .keep rfl (.inl rfl)
  | release computed =>
      obtain ⟨_, _, _, rfl⟩ := transferUnderlyingTo_ok computed
      exact .keep rfl (.inl rfl)
  | mintLToken computed =>
      obtain ⟨_, _, rfl⟩ := mintLToken_ok computed
      exact .keep rfl (.inl rfl)
  | burnLToken computed =>
      obtain ⟨_, _, _, _, rfl⟩ := burnLToken_ok computed
      exact .keep rfl (.inl rfl)
  | mintStableDebt current computed =>
      obtain ⟨_, minted, rfl⟩ := mintStableDebt_ok computed
      have stamp := minted.totalSupplyTimestamp
      rw [uint40_of_lt env.timestamp_lt] at stamp
      exact .keep rfl (.inr ⟨current, stamp⟩)
  | burnStableDebt current computed =>
      obtain ⟨_, burned, rfl⟩ := burnStableDebt_ok computed
      have stamp := burned.totalSupplyTimestamp
      rw [uint40_of_lt env.timestamp_lt] at stamp
      exact .keep rfl (.inr ⟨current, stamp⟩)
  | mintVariableDebt _ computed =>
      obtain ⟨_, _, rfl⟩ := mintVariableDebt_ok computed
      exact .keep rfl (.inl rfl)
  | burnVariableDebt _ computed =>
      obtain ⟨_, _, rfl⟩ := burnVariableDebt_ok computed
      exact .keep rfl (.inl rfl)
  | moveLTokens | allow | delegateStable | delegateVariable => exact .keep rfl (.inl rfl)

theorem Reserve.Operation.settings {env : Env} {reserve after : Reserve}
    (operation : Reserve.Operation env reserve after) : Reserve.SameSettings reserve after := by
  cases operation.moved with
  | accrue computed =>
      obtain ⟨_, _, _, run⟩ := updateState_ok computed
      rw [run.result]
      exact ⟨rfl, rfl⟩
  | rate data => exact ⟨by rw [data], by rw [data]⟩
  | income computed =>
      obtain ⟨_, _, _, data⟩ := ReserveData.cumulateToLiquidityIndex_ok computed
      exact ⟨by rw [data], by rw [data]⟩
  | keep data => exact ⟨by rw [data], by rw [data]⟩

theorem Reserve.Operations.settings {env : Env} {reserve after : Reserve}
    (operations : Reserve.Operations env reserve after) : Reserve.SameSettings reserve after := by
  induction operations with
  | refl => exact ⟨rfl, rfl⟩
  | tail _ last ih =>
      have step := last.settings
      exact ⟨step.configuration.trans ih.configuration, step.strategy.trans ih.strategy⟩

namespace Reserve.Operations

variable {env : Env} {reserve after : Reserve}

theorem single (operation : Reserve.Operation env reserve after) :
    Reserve.Operations env reserve after :=
  Relation.ReflTransGen.single operation

theorem steps (operations : Reserve.Operations env reserve after) :
    Reserve.Steps env reserve after :=
  Relation.ReflTransGen.mono (fun _ _ operation => Reserve.Step.operation operation) _ _ operations

end Reserve.Operations

structure Reserve.Worked (env : Env) (reserve accrued after : Reserve) : Prop where
  accrue : reserve.updateState env.timestamp = .ok accrued
  operations : Reserve.Operations env accrued after

theorem Reserve.Worked.all {env : Env} {reserve accrued after : Reserve}
    (worked : Reserve.Worked env reserve accrued after) : Reserve.Operations env reserve after :=
  (Operations.single (.accrue worked.accrue)).trans worked.operations

structure Reserve.Keeps (reserve after : Reserve) : Prop where
  id : after.id = reserve.id
  lTokenAddress : after.lTokenAddress = reserve.lTokenAddress
  stableDebtTokenAddress : after.stableDebtTokenAddress = reserve.stableDebtTokenAddress
  variableDebtTokenAddress : after.variableDebtTokenAddress = reserve.variableDebtTokenAddress
  treasury : after.lToken.treasury = reserve.lToken.treasury
  liquidityIndex : reserve.liquidityIndex ≤ after.liquidityIndex
  variableBorrowIndex : reserve.variableBorrowIndex ≤ after.variableBorrowIndex

namespace Reserve.Keeps

variable {env : Env} {reserve middle after : Reserve}

theorem refl (reserve : Reserve) : Keeps reserve reserve :=
  ⟨rfl, rfl, rfl, rfl, rfl, le_refl _, le_refl _⟩

theorem trans (first : Keeps reserve middle) (second : Keeps middle after) :
    Keeps reserve after where
  id := second.id.trans first.id
  lTokenAddress := second.lTokenAddress.trans first.lTokenAddress
  stableDebtTokenAddress := second.stableDebtTokenAddress.trans first.stableDebtTokenAddress
  variableDebtTokenAddress := second.variableDebtTokenAddress.trans first.variableDebtTokenAddress
  treasury := second.treasury.trans first.treasury
  liquidityIndex := le_trans first.liquidityIndex second.liquidityIndex
  variableBorrowIndex := le_trans first.variableBorrowIndex second.variableBorrowIndex

theorem of_operation (operation : Reserve.Operation env reserve after) :
    Keeps reserve after := by
  cases operation with
  | accrue computed =>
      obtain ⟨lToken, liquidityIndex, variableBorrowIndex, run⟩ := updateState_ok computed
      have liquidity : reserve.liquidityIndex ≤ reserve.accruedLiquidityIndex env.timestamp :=
        ReserveData.le_accruedLiquidityIndex _
      have floating : reserve.variableBorrowIndex ≤ reserve.accruedVariableBorrowIndex
          env.timestamp reserve.variableDebtToken.base.totalSupply :=
        ReserveData.le_accruedVariableBorrowIndex _ _
      rw [← run.liquidity] at liquidity
      rw [← run.floating] at floating
      rw [run.result]
      refine ⟨rfl, rfl, rfl, rfl, ?_, liquidity, floating⟩
      rcases mintToTreasury_ok run.treasury with same | ⟨_, _, _, _, treasury⟩
      · rw [same]
      · exact treasury
  | rate computed =>
      obtain ⟨_, _, _, _, run⟩ := updateInterestRates_ok computed
      rw [run.result]
      exact ⟨rfl, rfl, rfl, rfl, rfl, le_refl _, le_refl _⟩
  | income computed =>
      obtain ⟨_, liquidityIndex, cumulated, rfl⟩ :=
        ReserveData.cumulateToLiquidityIndex_ok computed
      have grown := cumulated ▸ ReserveData.le_cumulated _ _
      exact ⟨rfl, rfl, rfl, rfl, rfl, grown, le_refl _⟩
  | fund computed =>
      obtain ⟨_, _, rfl⟩ := transferUnderlyingFrom_ok computed
      exact ⟨rfl, rfl, rfl, rfl, rfl, le_refl _, le_refl _⟩
  | release computed =>
      obtain ⟨_, _, _, rfl⟩ := transferUnderlyingTo_ok computed
      exact ⟨rfl, rfl, rfl, rfl, rfl, le_refl _, le_refl _⟩
  | mintLToken computed =>
      obtain ⟨_, minted, rfl⟩ := mintLToken_ok computed
      exact ⟨rfl, rfl, rfl, rfl, minted.treasury, le_refl _, le_refl _⟩
  | burnLToken computed =>
      obtain ⟨_, _, burned, _, rfl⟩ := burnLToken_ok computed
      exact ⟨rfl, rfl, rfl, rfl, burned.treasury, le_refl _, le_refl _⟩
  | moveLTokens computed =>
      obtain ⟨_, _, moved⟩ := LToken.transfer_ok computed
      exact ⟨rfl, rfl, rfl, rfl, moved.treasury, le_refl _, le_refl _⟩
  | mintStableDebt _ computed =>
      obtain ⟨_, _, rfl⟩ := mintStableDebt_ok computed
      exact ⟨rfl, rfl, rfl, rfl, rfl, le_refl _, le_refl _⟩
  | burnStableDebt _ computed =>
      obtain ⟨_, _, rfl⟩ := burnStableDebt_ok computed
      exact ⟨rfl, rfl, rfl, rfl, rfl, le_refl _, le_refl _⟩
  | mintVariableDebt _ computed =>
      obtain ⟨_, _, rfl⟩ := mintVariableDebt_ok computed
      exact ⟨rfl, rfl, rfl, rfl, rfl, le_refl _, le_refl _⟩
  | burnVariableDebt _ computed =>
      obtain ⟨_, _, rfl⟩ := burnVariableDebt_ok computed
      exact ⟨rfl, rfl, rfl, rfl, rfl, le_refl _, le_refl _⟩
  | allow | delegateStable | delegateVariable =>
      exact ⟨rfl, rfl, rfl, rfl, rfl, le_refl _, le_refl _⟩

theorem of_step (step : Reserve.Step env reserve after) : Keeps reserve after := by
  cases step with
  | operation operation => exact of_operation operation
  | ledger | configure | choose => exact ⟨rfl, rfl, rfl, rfl, rfl, le_refl _, le_refl _⟩

theorem of_operations (operations : Reserve.Operations env reserve after) : Keeps reserve after := by
  induction operations with
  | refl => exact refl _
  | tail _ last ih => exact ih.trans (of_operation last)

theorem of_steps (steps : Reserve.Steps env reserve after) : Keeps reserve after := by
  induction steps with
  | refl => exact refl _
  | tail _ last ih => exact ih.trans (of_step last)

end Reserve.Keeps

namespace LendingPool

open Reserve.Operations

variable {env : Env} {pool after : LendingPool} {msgSender asset user onBehalfOf : Address}
variable {amount : Nat}

structure SameRegistry (pool after : LendingPool) : Prop where
  self : after.self = pool.self
  addressesProvider : after.addressesProvider = pool.addressesProvider
  reservesList : after.reservesList = pool.reservesList
  reservesCount : after.reservesCount = pool.reservesCount
  maxStableRateBorrowSizePercent :
    after.maxStableRateBorrowSizePercent = pool.maxStableRateBorrowSizePercent
  flashLoanPremiumTotal : after.flashLoanPremiumTotal = pool.flashLoanPremiumTotal
  maxNumberOfReserves : after.maxNumberOfReserves = pool.maxNumberOfReserves

structure Evolves (env : Env) (pool after : LendingPool) : Prop where
  registry : SameRegistry pool after
  steps : ∀ a, Reserve.Steps env (pool.reserves a) (after.reserves a)

structure Operates (env : Env) (pool after : LendingPool) : Prop where
  registry : SameRegistry pool after
  operations : ∀ a, Reserve.Operations env (pool.reserves a) (after.reserves a)

theorem SameRegistry.refl (pool : LendingPool) : SameRegistry pool pool :=
  ⟨rfl, rfl, rfl, rfl, rfl, rfl, rfl⟩

theorem SameRegistry.trans {middle : LendingPool} (first : SameRegistry pool middle)
    (second : SameRegistry middle after) : SameRegistry pool after :=
  ⟨second.self.trans first.self, second.addressesProvider.trans first.addressesProvider,
    second.reservesList.trans first.reservesList, second.reservesCount.trans first.reservesCount,
    second.maxStableRateBorrowSizePercent.trans first.maxStableRateBorrowSizePercent,
    second.flashLoanPremiumTotal.trans first.flashLoanPremiumTotal,
    second.maxNumberOfReserves.trans first.maxNumberOfReserves⟩

theorem Evolves.refl (pool : LendingPool) : Evolves env pool pool := ⟨.refl _, fun _ => .refl⟩

theorem Evolves.keeps (evolves : Evolves env pool after) (a : Address) :
    Reserve.Keeps (pool.reserves a) (after.reserves a) :=
  .of_steps (evolves.steps a)

theorem evolves_setReserve {reserve : Reserve}
    (steps : Reserve.Steps env (pool.reserves asset) reserve) :
    Evolves env pool (pool.setReserve asset reserve) := by
  refine ⟨⟨rfl, rfl, rfl, rfl, rfl, rfl, rfl⟩, fun a => ?_⟩
  by_cases same : a = asset
  · subst same
    simpa using steps
  · simp [same, Relation.ReflTransGen.refl]

theorem Operates.evolves (operates : Operates env pool after) : Evolves env pool after :=
  ⟨operates.registry, fun a => (operates.operations a).steps⟩

theorem Operates.refl (pool : LendingPool) : Operates env pool pool := ⟨.refl _, fun _ => .refl⟩

theorem Operates.trans {middle : LendingPool} (first : Operates env pool middle)
    (second : Operates env middle after) : Operates env pool after :=
  ⟨first.registry.trans second.registry,
    fun a => (first.operations a).trans (second.operations a)⟩

theorem operates_setReserve {reserve : Reserve}
    (operations : Reserve.Operations env (pool.reserves asset) reserve) :
    Operates env pool (pool.setReserve asset reserve) := by
  refine ⟨⟨rfl, rfl, rfl, rfl, rfl, rfl, rfl⟩, fun a => ?_⟩
  by_cases same : a = asset
  · subst same
    simpa using operations
  · simp [same, Relation.ReflTransGen.refl]

theorem operates_setUserConfig (config : UserConfigurationMap) :
    Operates env pool (pool.setUserConfig user config) :=
  ⟨⟨rfl, rfl, rfl, rfl, rfl, rfl, rfl⟩, fun _ => .refl⟩

theorem Operates.flagged (operates : Operates env pool after) (config : UserConfigurationMap) :
    Operates env pool (after.setUserConfig user config) :=
  operates.trans (operates_setUserConfig config)

theorem burnStableDebt_timestamp {reserve burned : Reserve} {now : Nat}
    (computed : reserve.burnStableDebt now user amount = .ok burned) :
    burned.lastUpdateTimestamp = reserve.lastUpdateTimestamp := by
  obtain ⟨_, _, rfl⟩ := Reserve.burnStableDebt_ok computed
  rfl

theorem burnVariableDebt_timestamp {reserve burned : Reserve}
    (computed : reserve.burnVariableDebt user amount = .ok burned) :
    burned.lastUpdateTimestamp = reserve.lastUpdateTimestamp := by
  obtain ⟨_, _, rfl⟩ := Reserve.burnVariableDebt_ok computed
  rfl

theorem Deposited.works {accrued rated funded minted : Reserve} {first : Bool}
    {config : UserConfigurationMap}
    (run : Deposited env pool msgSender asset amount onBehalfOf accrued rated funded minted first
      config after) : Reserve.Worked env (pool.reserves asset) accrued minted :=
  ⟨run.accrue, ((single (.rate run.rate)).tail (.fund run.fund)).tail (.mintLToken run.mint)⟩

theorem deposit_operates (computed : pool.deposit env msgSender asset amount onBehalfOf = .ok after) :
    Operates env pool after := by
  obtain ⟨accrued, rated, funded, minted, first, config, run⟩ := deposit_ok computed
  rw [run.result]
  exact (operates_setReserve run.works.all).flagged config

theorem Withdrawn.works {recipient : Address} {balance : Nat} {accrued rated burned : Reserve}
    {config : UserConfigurationMap}
    (run : Withdrawn env pool msgSender asset recipient amount balance accrued rated burned config
      after) : Reserve.Worked env (pool.reserves asset) accrued burned :=
  ⟨run.accrue, (single (.rate run.rate)).tail (.burnLToken run.burn)⟩

theorem withdraw_operates {recipient : Address} {withdrawn : Nat}
    (computed : pool.withdraw env msgSender asset amount recipient = .ok (after, withdrawn)) :
    Operates env pool after := by
  obtain ⟨_, accrued, rated, burned, config, _, run⟩ := withdraw_ok computed
  rw [run.result]
  exact (operates_setReserve run.works.all).flagged config

theorem Borrowed.works {vars : ExecuteBorrowParams} {amountInETH : Nat}
    {accrued minted rated released : Reserve} {mode : InterestRateMode} {first : Bool}
    {config : UserConfigurationMap}
    (run : Borrowed env pool vars amountInETH accrued minted rated released mode first config
      after) : Reserve.Worked env (pool.reserves vars.asset) accrued released := by
  refine ⟨run.accrue, ?_⟩
  have current := Reserve.updateState_timestamp run.accrue
  have lent : Reserve.Operation env accrued minted := by
    have mint := run.mint
    split_ifs at mint
    · exact .mintStableDebt current mint
    · exact .mintVariableDebt current mint
  have charged := (single lent).tail (.rate run.rate)
  have release := run.release
  split_ifs at release
  · exact charged.tail (.release release)
  · cases release
    exact charged

theorem executeBorrow_operates {vars : ExecuteBorrowParams}
    (computed : pool.executeBorrow env vars = .ok after) : Operates env pool after := by
  obtain ⟨_, accrued, minted, rated, released, mode, first, config, run⟩ :=
    executeBorrow_ok computed
  rw [run.result]
  exact (operates_setReserve run.works.all).flagged config

theorem Repaid.returned {mode : InterestRateMode} {stableDebt variableDebt payback : Nat}
    {accrued burned rated funded : Reserve} {config : UserConfigurationMap}
    (run : Repaid env pool msgSender asset amount mode onBehalfOf stableDebt variableDebt payback
      accrued burned rated funded config after) : Reserve.Operation env accrued burned := by
  have current := Reserve.updateState_timestamp run.accrue
  have burn := run.burn
  split_ifs at burn
  · exact .burnStableDebt current burn
  · exact .burnVariableDebt current burn

theorem Repaid.works {mode : InterestRateMode} {stableDebt variableDebt payback : Nat}
    {accrued burned rated funded : Reserve} {config : UserConfigurationMap}
    (run : Repaid env pool msgSender asset amount mode onBehalfOf stableDebt variableDebt payback
      accrued burned rated funded config after) :
    Reserve.Worked env (pool.reserves asset) accrued funded :=
  ⟨run.accrue, ((single run.returned).tail (.rate run.rate)).tail (.fund run.fund)⟩

theorem repay_operates {rateMode payback : Nat}
    (computed : pool.repay env msgSender asset amount rateMode onBehalfOf = .ok (after, payback)) :
    Operates env pool after := by
  obtain ⟨mode, _, _, accrued, burned, rated, funded, config, _, run⟩ := repay_ok computed
  rw [run.result]
  exact (operates_setReserve run.works.all).flagged config

theorem Swapped.works {mode : InterestRateMode} {stableDebt variableDebt : Nat}
    {accrued burned minted rated : Reserve} {first : Bool}
    (run : Swapped env pool msgSender asset mode stableDebt variableDebt accrued burned minted rated
      first after) : Reserve.Worked env (pool.reserves asset) accrued rated := by
  refine ⟨run.accrue, ?_⟩
  have current := Reserve.updateState_timestamp run.accrue
  have burn := run.burn
  have mint := run.mint
  split_ifs at burn mint
  · have still := (burnStableDebt_timestamp burn).trans current
    exact ((single (.burnStableDebt current burn)).tail (.mintVariableDebt still mint)).tail
      (.rate run.rate)
  · have still := (burnVariableDebt_timestamp burn).trans current
    exact ((single (.burnVariableDebt current burn)).tail (.mintStableDebt still mint)).tail
      (.rate run.rate)

theorem swapBorrowRateMode_operates {rateMode : Nat}
    (computed : pool.swapBorrowRateMode env msgSender asset rateMode = .ok after) :
    Operates env pool after := by
  obtain ⟨mode, _, _, accrued, burned, minted, rated, first, _, run⟩ :=
    swapBorrowRateMode_ok computed
  rw [run.result]
  exact operates_setReserve run.works.all

theorem Rebalanced.works {stableDebt : Nat} {accrued burned minted rated : Reserve} {first : Bool}
    (run : Rebalanced env pool asset user stableDebt accrued burned minted rated first after) :
    Reserve.Worked env (pool.reserves asset) accrued rated := by
  have current := Reserve.updateState_timestamp run.accrue
  have still := (burnStableDebt_timestamp run.burn).trans current
  exact ⟨run.accrue, ((single (.burnStableDebt current run.burn)).tail
    (.mintStableDebt still run.mint)).tail (.rate run.rate)⟩

theorem rebalanceStableBorrowRate_operates
    (computed : pool.rebalanceStableBorrowRate env asset user = .ok after) :
    Operates env pool after := by
  obtain ⟨_, accrued, burned, minted, rated, first, run⟩ := rebalanceStableBorrowRate_ok computed
  rw [run.result]
  exact operates_setReserve run.works.all

theorem setUserUseReserveAsCollateral_operates {useAsCollateral : Bool}
    (computed : pool.setUserUseReserveAsCollateral env msgSender asset useAsCollateral = .ok after) :
    Operates env pool after := by
  obtain ⟨config, _, _, rfl⟩ := setUserUseReserveAsCollateral_ok computed
  exact operates_setUserConfig config

theorem burnDebt_operations {reserve burned : Reserve} {actual userVariableDebt : Nat}
    (current : reserve.lastUpdateTimestamp = env.timestamp)
    (computed : LendingPoolCollateralManager.burnDebt env reserve user actual userVariableDebt =
      .ok burned) : Reserve.Operations env reserve burned := by
  rcases LendingPoolCollateralManager.burnDebt_ok computed with ⟨_, burn⟩ | ⟨_, floating, first, second⟩
  · exact .single (.burnVariableDebt current burn)
  · split_ifs at first
    · have still := (burnVariableDebt_timestamp first).trans current
      exact (single (.burnVariableDebt current first)).tail (.burnStableDebt still second)
    · cases first
      exact .single (.burnStableDebt current second)

open LendingPoolCollateralManager in
theorem debtRepaid_works {debtAsset : Address} {actual userVariableDebt : Nat}
    {accrued burned rated : Reserve}
    (leg : DebtRepaid env pool debtAsset user actual userVariableDebt accrued burned rated after) :
    Reserve.Worked env (pool.reserves debtAsset) accrued rated :=
  ⟨leg.accrue, (burnDebt_operations (Reserve.updateState_timestamp leg.accrue) leg.burn).tail
    (.rate leg.rate)⟩

theorem repayDebt_operates {debtAsset : Address} {actual userVariableDebt : Nat}
    (computed : LendingPoolCollateralManager.repayDebt env pool debtAsset user actual
      userVariableDebt = .ok after) : Operates env pool after := by
  obtain ⟨accrued, burned, rated, leg⟩ := LendingPoolCollateralManager.repayDebt_ok computed
  rw [leg.result]
  exact operates_setReserve (debtRepaid_works leg).all

open LendingPoolCollateralManager in
theorem underlyingSeized_works {collateralAsset : Address} {accrued rated burned : Reserve}
    (leg : UnderlyingSeized env pool msgSender collateralAsset user amount accrued rated burned
      after) : Reserve.Worked env (pool.reserves collateralAsset) accrued burned :=
  ⟨leg.accrue, (single (.rate leg.rate)).tail (.burnLToken leg.burn)⟩

open LendingPoolCollateralManager in
theorem seize_operates {collateralAsset : Address} {receiveLToken : Bool}
    (computed : (if receiveLToken then seizeLTokens env pool msgSender collateralAsset user amount
      else seizeUnderlying env pool msgSender collateralAsset user amount) = .ok after) :
    Operates env pool after := by
  split_ifs at computed
  · obtain ⟨_, _, _, lToken, _, leg⟩ := seizeLTokens_ok computed
    rw [leg.result]
    exact (operates_setReserve (single (.moveLTokens leg.transfer))).flagged _
  · obtain ⟨accrued, rated, burned, leg⟩ := seizeUnderlying_ok computed
    rw [leg.result]
    exact operates_setReserve (underlyingSeized_works leg).all

theorem liquidationCall_operates {collateralAsset debtAsset : Address} {debtToCover : Nat}
    {receiveLToken : Bool}
    (computed : pool.liquidationCall env msgSender collateralAsset debtAsset user debtToCover
      receiveLToken = .ok after) : Operates env pool after := by
  obtain ⟨_, _, _, _, _, _, _, run⟩ := liquidationCall_ok computed
  obtain ⟨repaid, seized, config, funded, exec⟩ :=
    LendingPoolCollateralManager.executeLiquidation_ok run.execute
  have covered : Operates env seized after := by
    rw [exec.result]
    exact (operates_setUserConfig config).trans (operates_setReserve (single (.fund exec.fund)))
  exact ((repayDebt_operates exec.repay).trans (seize_operates exec.seize)).trans covered

theorem openFlashLoan_operates {receiverAddress : Address}
    {requests : List (Address × Nat × Option Nat)} {entries : List FlashLoanEntry}
    (computed : openFlashLoan receiverAddress pool requests = .ok (after, entries)) :
    Operates env pool after := by
  induction requests generalizing pool entries with
  | nil =>
      cases computed
      exact .refl _
  | cons request rest ih =>
      obtain ⟨asset, amount, mode⟩ := request
      obtain ⟨lent, later, sent, opened, _⟩ := openFlashLoan_cons computed
      exact (operates_setReserve (single (.release sent))).trans (ih opened)

theorem Repaying.works {receiverAddress : Address} {entry : FlashLoanEntry} {totalSupply : Nat}
    {accrued rated funded : Reserve} {data : ReserveData}
    (run : Repaying env pool receiverAddress entry totalSupply accrued data rated funded after) :
    Reserve.Worked env (pool.reserves entry.asset) accrued funded :=
  ⟨run.accrue, ((single (.income run.income)).tail (.rate run.rate)).tail (.fund run.fund)⟩

theorem settleFlashLoan_operates {receiverAddress : Address} {entry : FlashLoanEntry}
    (computed : pool.settleFlashLoan env receiverAddress msgSender onBehalfOf entry = .ok after) :
    Operates env pool after := by
  obtain ⟨_, _, _, _, settled⟩ := settleFlashLoan_ok computed
  rcases settled with ⟨_, _, accrued, data, rated, funded, run⟩ | ⟨_, borrowed⟩
  · rw [run.result]
    exact operates_setReserve run.works.all
  · exact executeBorrow_operates borrowed

theorem finalized_operates {sender recipient : Address} {fromBefore toBefore : Nat}
    (finalized : Finalized env pool asset sender recipient amount fromBefore toBefore after) :
    Operates env pool after := by
  rcases finalized.result with ⟨_, rfl⟩ | ⟨_, _, _, _, _, _, rfl⟩
  · exact .refl _
  · exact (operates_setUserConfig _).flagged _

theorem moveLTokens_operates {sender recipient : Address}
    (computed : pool.moveLTokens env asset sender recipient amount = .ok after) :
    Operates env pool after := by
  obtain ⟨lToken, _, _, run⟩ := moveLTokens_ok computed
  exact (operates_setReserve (single (.moveLTokens run.transfer))).trans
    (finalized_operates run.finalize)

theorem updateAllowance_operates {change : ERC20 → Result ERC20}
    (kept : ∀ base base', change base = .ok base' → ERC20.SameHoldings base base')
    (computed : pool.updateAllowance asset change = .ok after) : Operates env pool after := by
  obtain ⟨_, base, changed, rfl⟩ := updateAllowance_ok computed
  have same := kept _ _ changed
  exact operates_setReserve (single (.allow same.balances same.totalSupply))

end LendingPool

end PalmyProtocol
