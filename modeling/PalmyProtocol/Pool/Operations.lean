import PalmyProtocol.Pool.LendingPool

set_option autoImplicit false

namespace PalmyProtocol

open Checked Rounding

-- What each operation did, stage by stage, when it did not revert.
namespace LendingPool

variable {env : Env} {pool after : LendingPool} {msgSender asset user onBehalfOf : Address}
variable {amount : Nat}

structure Deposited (env : Env) (pool : LendingPool) (msgSender asset : Address) (amount : Nat)
    (onBehalfOf : Address) (accrued rated funded minted : Reserve) (first : Bool)
    (config : UserConfigurationMap) (after : LendingPool) : Prop where
  unpaused : pool.paused = false
  valid : ValidationLogic.validateDeposit (pool.reserves asset) amount = .ok ()
  accrue : (pool.reserves asset).updateState env.timestamp = .ok accrued
  rate : accrued.updateInterestRates env asset (pool.reserves asset).lTokenAddress amount 0 =
    .ok rated
  fund : rated.transferUnderlyingFrom pool.self msgSender (pool.reserves asset).lTokenAddress amount =
    .ok funded
  mint : funded.mintLToken onBehalfOf amount = .ok (minted, first)
  flag : (if first then (pool.usersConfig onBehalfOf).setUsingAsCollateral minted.id true
    else .ok (pool.usersConfig onBehalfOf)) = .ok config
  result : after = (pool.setReserve asset minted).setUserConfig onBehalfOf config

theorem deposit_ok (computed : pool.deposit env msgSender asset amount onBehalfOf = .ok after) :
    ∃ accrued rated funded minted first config, Deposited env pool msgSender asset amount onBehalfOf
      accrued rated funded minted first config after := by
  simp only [deposit, whenNotPaused, bind_eq_ok, require_eq_ok, exists_const, Prod.exists,
    pure_eq_ok] at computed
  obtain ⟨unpaused, _, valid, accrued, accrue, rated, rate, funded, fund, minted, first, mint,
    config, flag, rfl⟩ := computed
  exact ⟨accrued, rated, funded, minted, first, config, unpaused, valid, accrue, rate, fund, mint,
    flag, rfl⟩

structure Withdrawn (env : Env) (pool : LendingPool) (msgSender asset recipient : Address)
    (amountToWithdraw userBalance : Nat) (accrued rated burned : Reserve)
    (config : UserConfigurationMap) (after : LendingPool) : Prop where
  unpaused : pool.paused = false
  balance : (pool.reserves asset).lTokenBalanceOf env.timestamp msgSender = .ok userBalance
  valid : ValidationLogic.validateWithdraw env pool msgSender asset amountToWithdraw userBalance =
    .ok ()
  accrue : (pool.reserves asset).updateState env.timestamp = .ok accrued
  rate : accrued.updateInterestRates env asset (pool.reserves asset).lTokenAddress 0
    amountToWithdraw = .ok rated
  flag : (if amountToWithdraw = userBalance then
      (pool.usersConfig msgSender).setUsingAsCollateral rated.id false
    else .ok (pool.usersConfig msgSender)) = .ok config
  burn : rated.burnLToken msgSender recipient amountToWithdraw = .ok burned
  result : after = (pool.setReserve asset burned).setUserConfig msgSender config

theorem withdraw_ok {recipient : Address} {withdrawn : Nat}
    (computed : pool.withdraw env msgSender asset amount recipient = .ok (after, withdrawn)) :
    ∃ userBalance accrued rated burned config,
      withdrawn = (if amount = maxUint256 then userBalance else amount) ∧
      Withdrawn env pool msgSender asset recipient withdrawn userBalance accrued rated burned config
        after := by
  simp only [withdraw, whenNotPaused, bind_eq_ok, require_eq_ok, exists_const,
    pure_eq_ok, Prod.mk.injEq] at computed
  obtain ⟨unpaused, userBalance, balance, _, valid, accrued, accrue, rated, rate, config, flag,
    burned, burn, rfl, rfl⟩ := computed
  exact ⟨userBalance, accrued, rated, burned, config, rfl, unpaused, balance, valid, accrue, rate,
    flag, burn, rfl⟩

structure Borrowed (env : Env) (pool : LendingPool) (vars : ExecuteBorrowParams)
    (amountInETH : Nat) (accrued minted rated released : Reserve) (mode : InterestRateMode)
    (first : Bool) (config : UserConfigurationMap) (after : LendingPool) : Prop where
  value : valueInETH (env.getAssetPrice vars.asset) vars.amount
    (pool.reserves vars.asset).configuration.getDecimals = .ok amountInETH
  valid : ValidationLogic.validateBorrow env pool vars.asset vars.onBehalfOf vars.amount amountInETH
    vars.interestRateMode = .ok ()
  accrue : (pool.reserves vars.asset).updateState env.timestamp = .ok accrued
  chosen : toInterestRateMode vars.interestRateMode = .ok mode
  mint : (if mode = .STABLE then accrued.mintStableDebt env.timestamp vars.user vars.onBehalfOf
      vars.amount accrued.currentStableBorrowRate
    else accrued.mintVariableDebt vars.user vars.onBehalfOf vars.amount) = .ok (minted, first)
  flag : (if first then (pool.usersConfig vars.onBehalfOf).setBorrowing minted.id true
    else .ok (pool.usersConfig vars.onBehalfOf)) = .ok config
  rate : minted.updateInterestRates env vars.asset vars.lTokenAddress 0
    (if vars.releaseUnderlying then vars.amount else 0) = .ok rated
  release : (if vars.releaseUnderlying then rated.transferUnderlyingTo vars.user vars.amount
    else .ok rated) = .ok released
  result : after = (pool.setReserve vars.asset released).setUserConfig vars.onBehalfOf config

theorem executeBorrow_ok {vars : ExecuteBorrowParams}
    (computed : pool.executeBorrow env vars = .ok after) :
    ∃ amountInETH accrued minted rated released mode first config,
      Borrowed env pool vars amountInETH accrued minted rated released mode first config after := by
  simp only [executeBorrow, bind_eq_ok, Prod.exists] at computed
  obtain ⟨amountInETH, value, _, valid, accrued, accrue, mode, chosen, minted, first, mint, config,
    flag, rated, rate, released, release, result⟩ := computed
  exact ⟨amountInETH, accrued, minted, rated, released, mode, first, config, value, valid, accrue,
    chosen, mint, flag, rate, release, (pure_eq_ok.1 result).symm⟩

theorem Borrowed.released_eq {vars : ExecuteBorrowParams} {amountInETH : Nat}
    {accrued minted rated released : Reserve} {mode : InterestRateMode} {first : Bool}
    {config : UserConfigurationMap}
    (run : Borrowed env pool vars amountInETH accrued minted rated released mode first config
      after) : ∃ underlying, released = { rated with underlying } := by
  have release := run.release
  split_ifs at release
  · obtain ⟨_, underlying, _, shape⟩ := Reserve.transferUnderlyingTo_ok release
    exact ⟨underlying, shape⟩
  · cases release
    exact ⟨rated.underlying, rfl⟩

structure Repaid (env : Env) (pool : LendingPool) (msgSender asset : Address) (amount : Nat)
    (mode : InterestRateMode) (onBehalfOf : Address) (stableDebt variableDebt payback : Nat)
    (accrued burned rated funded : Reserve) (config : UserConfigurationMap) (after : LendingPool) :
    Prop where
  unpaused : pool.paused = false
  debts : (pool.reserves asset).getUserCurrentDebt env.timestamp onBehalfOf =
    .ok (stableDebt, variableDebt)
  valid : ValidationLogic.validateRepay (pool.reserves asset) msgSender amount mode onBehalfOf
    stableDebt variableDebt = .ok ()
  bounded : payback = min amount (if mode = .STABLE then stableDebt else variableDebt)
  accrue : (pool.reserves asset).updateState env.timestamp = .ok accrued
  burn : (if mode = .STABLE then accrued.burnStableDebt env.timestamp onBehalfOf payback
    else accrued.burnVariableDebt onBehalfOf payback) = .ok burned
  rate : burned.updateInterestRates env asset burned.lTokenAddress payback 0 = .ok rated
  covered : payback ≤ stableDebt + variableDebt
  flag : (if stableDebt + variableDebt - payback = 0 then
      (pool.usersConfig onBehalfOf).setBorrowing rated.id false
    else .ok (pool.usersConfig onBehalfOf)) = .ok config
  fund : rated.transferUnderlyingFrom pool.self msgSender burned.lTokenAddress payback = .ok funded
  result : after = (pool.setReserve asset funded).setUserConfig onBehalfOf config

theorem repay_ok {rateMode payback : Nat}
    (computed : pool.repay env msgSender asset amount rateMode onBehalfOf = .ok (after, payback)) :
    ∃ mode stableDebt variableDebt accrued burned rated funded config,
      toInterestRateMode rateMode = .ok mode ∧
      Repaid env pool msgSender asset amount mode onBehalfOf stableDebt variableDebt payback accrued
        burned rated funded config after := by
  simp only [repay, whenNotPaused, bind_eq_ok, require_eq_ok, exists_const, Prod.exists,
    SafeMath.add_eq_ok, SafeMath.sub_eq_ok, pure_eq_ok, Prod.mk.injEq] at computed
  obtain ⟨unpaused, stableDebt, variableDebt, debts, mode, chosen, _, valid, accrued, accrue, burned,
    burn, rated, rate, _, ⟨_, rfl⟩, _, ⟨covered, rfl⟩, config, flag, funded, fund, rfl, rfl⟩ :=
    computed
  refine ⟨mode, stableDebt, variableDebt, accrued, burned, rated, funded, config, chosen, unpaused,
    debts, valid, ?_, accrue, burn, rate, covered, flag, fund, rfl⟩
  split_ifs <;> omega

structure Swapped (env : Env) (pool : LendingPool) (msgSender asset : Address)
    (mode : InterestRateMode) (stableDebt variableDebt : Nat)
    (accrued burned minted rated : Reserve) (first : Bool) (after : LendingPool) : Prop where
  unpaused : pool.paused = false
  debts : (pool.reserves asset).getUserCurrentDebt env.timestamp msgSender =
    .ok (stableDebt, variableDebt)
  valid : ValidationLogic.validateSwapRateMode env pool (pool.reserves asset) msgSender stableDebt
    variableDebt mode = .ok ()
  accrue : (pool.reserves asset).updateState env.timestamp = .ok accrued
  burn : (if mode = .STABLE then accrued.burnStableDebt env.timestamp msgSender stableDebt
    else accrued.burnVariableDebt msgSender variableDebt) = .ok burned
  mint : (if mode = .STABLE then burned.mintVariableDebt msgSender msgSender stableDebt
    else burned.mintStableDebt env.timestamp msgSender msgSender variableDebt
      burned.currentStableBorrowRate) = .ok (minted, first)
  rate : minted.updateInterestRates env asset minted.lTokenAddress 0 0 = .ok rated
  result : after = pool.setReserve asset rated

theorem swapBorrowRateMode_ok {rateMode : Nat}
    (computed : pool.swapBorrowRateMode env msgSender asset rateMode = .ok after) :
    ∃ mode stableDebt variableDebt accrued burned minted rated first,
      toInterestRateMode rateMode = .ok mode ∧
      Swapped env pool msgSender asset mode stableDebt variableDebt accrued burned minted rated first
        after := by
  simp only [swapBorrowRateMode, whenNotPaused, bind_eq_ok, require_eq_ok, exists_const, Prod.exists,
    pure_eq_ok] at computed
  obtain ⟨unpaused, stableDebt, variableDebt, debts, mode, chosen, _, valid, accrued, accrue, minted,
    first, moved, rated, rate, rfl⟩ := computed
  by_cases stable : mode = .STABLE
  · simp only [stable, if_true, bind_eq_ok] at moved
    obtain ⟨burned, burn, mint⟩ := moved
    exact ⟨mode, stableDebt, variableDebt, accrued, burned, minted, rated, first, chosen, unpaused,
      debts, valid, accrue, by rw [if_pos stable, burn], by rw [if_pos stable, mint], rate, rfl⟩
  · simp only [stable, if_false, bind_eq_ok] at moved
    obtain ⟨burned, burn, mint⟩ := moved
    exact ⟨mode, stableDebt, variableDebt, accrued, burned, minted, rated, first, chosen, unpaused,
      debts, valid, accrue, by rw [if_neg stable, burn], by rw [if_neg stable, mint], rate, rfl⟩

structure Rebalanced (env : Env) (pool : LendingPool) (asset user : Address) (stableDebt : Nat)
    (accrued burned minted rated : Reserve) (first : Bool) (after : LendingPool) : Prop where
  unpaused : pool.paused = false
  debt : (pool.reserves asset).stableDebtBalanceOf env.timestamp user = .ok stableDebt
  valid : ValidationLogic.validateRebalanceStableBorrowRate env (pool.reserves asset) = .ok ()
  accrue : (pool.reserves asset).updateState env.timestamp = .ok accrued
  burn : accrued.burnStableDebt env.timestamp user stableDebt = .ok burned
  mint : burned.mintStableDebt env.timestamp user user stableDebt burned.currentStableBorrowRate =
    .ok (minted, first)
  rate : minted.updateInterestRates env asset (pool.reserves asset).lTokenAddress 0 0 = .ok rated
  result : after = pool.setReserve asset rated

theorem rebalanceStableBorrowRate_ok
    (computed : pool.rebalanceStableBorrowRate env asset user = .ok after) :
    ∃ stableDebt accrued burned minted rated first,
      Rebalanced env pool asset user stableDebt accrued burned minted rated first after := by
  simp only [rebalanceStableBorrowRate, whenNotPaused, bind_eq_ok, require_eq_ok, exists_const,
    Prod.exists, pure_eq_ok] at computed
  obtain ⟨unpaused, stableDebt, debt, _, valid, accrued, accrue, burned, burn, minted, first, mint,
    rated, rate, rfl⟩ := computed
  exact ⟨stableDebt, accrued, burned, minted, rated, first, unpaused, debt, valid, accrue, burn,
    mint, rate, rfl⟩

theorem setUserUseReserveAsCollateral_ok {useAsCollateral : Bool}
    (computed : pool.setUserUseReserveAsCollateral env msgSender asset useAsCollateral = .ok after) :
    ∃ config,
      ValidationLogic.validateSetUseReserveAsCollateral env pool msgSender asset useAsCollateral =
        .ok () ∧
      (pool.usersConfig msgSender).setUsingAsCollateral (pool.reserves asset).id useAsCollateral =
        .ok config ∧
      after = pool.setUserConfig msgSender config := by
  simp only [setUserUseReserveAsCollateral, whenNotPaused, bind_eq_ok, require_eq_ok, exists_const,
    pure_eq_ok] at computed
  obtain ⟨_, _, valid, config, flag, rfl⟩ := computed
  exact ⟨config, valid, flag, rfl⟩

structure Repaying (env : Env) (pool : LendingPool) (receiverAddress : Address)
    (entry : FlashLoanEntry) (totalSupply : Nat) (accrued : Reserve) (data : ReserveData)
    (rated funded : Reserve) (after : LendingPool) : Prop where
  accrue : (pool.reserves entry.asset).updateState env.timestamp = .ok accrued
  supply : accrued.lTokenTotalSupply env.timestamp = .ok totalSupply
  income : accrued.toReserveData.cumulateToLiquidityIndex totalSupply entry.premium = .ok data
  rate : Reserve.updateInterestRates { accrued with toReserveData := data } env entry.asset
    entry.lTokenAddress (entry.amount + entry.premium) 0 = .ok rated
  fund : rated.transferUnderlyingFrom pool.self receiverAddress entry.lTokenAddress
    (entry.amount + entry.premium) = .ok funded
  result : after = pool.setReserve entry.asset funded

theorem settleFlashLoan_ok {receiverAddress : Address} {entry : FlashLoanEntry}
    (computed : pool.settleFlashLoan env receiverAddress msgSender onBehalfOf entry = .ok after) :
    ∃ rateMode mode, entry.mode = some rateMode ∧ toInterestRateMode rateMode = .ok mode ∧
      ((mode = .NONE ∧ ∃ totalSupply accrued data rated funded,
          Repaying env pool receiverAddress entry totalSupply accrued data rated funded after) ∨
        (mode ≠ .NONE ∧ pool.executeBorrow env ⟨entry.asset, msgSender, onBehalfOf, entry.amount,
          rateMode, entry.lTokenAddress, false⟩ = .ok after)) := by
  simp only [settleFlashLoan, bind_eq_ok, SafeMath.add_eq_ok] at computed
  obtain ⟨_, ⟨_, rfl⟩, settled⟩ := computed
  cases chosen : entry.mode with
  | none => simp [chosen] at settled
  | some rateMode =>
      simp only [chosen, bind_eq_ok, ite_eq_ok, pure_eq_ok] at settled
      obtain ⟨mode, converted, settled⟩ := settled
      refine ⟨rateMode, mode, rfl, converted, ?_⟩
      rcases settled with ⟨none, accrued, accrue, totalSupply, supply, data, income, rated, rate,
        funded, fund, rfl⟩ | ⟨some, borrowed⟩
      · exact .inl ⟨none, totalSupply, accrued, data, rated, funded, accrue, supply, income, rate,
          fund, rfl⟩
      · exact .inr ⟨some, borrowed⟩

theorem openFlashLoan_cons {receiverAddress : Address} {mode : Option Nat}
    {rest : List (Address × Nat × Option Nat)} {entries : List FlashLoanEntry}
    (computed : openFlashLoan receiverAddress pool ((asset, amount, mode) :: rest) =
      .ok (after, entries)) :
    ∃ lent later, (pool.reserves asset).transferUnderlyingTo receiverAddress amount = .ok lent ∧
      openFlashLoan receiverAddress (pool.setReserve asset lent) rest = .ok (after, later) ∧
      entries = ⟨asset, amount, amount * pool.flashLoanPremiumTotal / 10000,
        (pool.reserves asset).lTokenAddress, mode⟩ :: later := by
  simp only [openFlashLoan, bind_eq_ok, SafeMath.mul_eq_ok, SafeMath.div_eq_ok, Prod.exists,
    pure_eq_ok, Prod.mk.injEq] at computed
  obtain ⟨_, ⟨_, rfl⟩, _, ⟨_, rfl⟩, lent, sent, _, later, opened, rfl, rfl⟩ := computed
  exact ⟨lent, later, sent, opened, rfl⟩

theorem openFlashLoan_usersConfig {receiverAddress : Address}
    {requests : List (Address × Nat × Option Nat)} {entries : List FlashLoanEntry}
    (computed : openFlashLoan receiverAddress pool requests = .ok (after, entries)) :
    after.usersConfig = pool.usersConfig := by
  induction requests generalizing pool entries with
  | nil =>
      cases computed
      rfl
  | cons request rest ih =>
      obtain ⟨asset, amount, mode⟩ := request
      obtain ⟨lent, later, _, opened, _⟩ := openFlashLoan_cons computed
      exact (ih opened).trans setReserve_usersConfig

structure Finalized (env : Env) (pool : LendingPool) (asset sender recipient : Address)
    (amount balanceFromBefore balanceToBefore : Nat) (after : LendingPool) : Prop where
  unpaused : pool.paused = false
  valid : ValidationLogic.validateTransfer env pool sender = .ok ()
  result : (sender = recipient ∧ after = pool) ∨ (sender ≠ recipient ∧
    amount ≤ balanceFromBefore ∧ ∃ fromConfig toConfig,
      (if balanceFromBefore - amount = 0 then
          (pool.usersConfig sender).setUsingAsCollateral (pool.reserves asset).id false
        else .ok (pool.usersConfig sender)) = .ok fromConfig ∧
      (if balanceToBefore = 0 ∧ amount ≠ 0 then
          (pool.usersConfig recipient).setUsingAsCollateral (pool.reserves asset).id true
        else .ok (pool.usersConfig recipient)) = .ok toConfig ∧
      after = (pool.setUserConfig sender fromConfig).setUserConfig recipient toConfig)

theorem finalizeTransfer_ok {sender recipient : Address} {balanceFromBefore balanceToBefore : Nat}
    (computed : pool.finalizeTransfer env msgSender asset sender recipient amount balanceFromBefore
      balanceToBefore = .ok after) :
    msgSender = (pool.reserves asset).lTokenAddress ∧
      Finalized env pool asset sender recipient amount balanceFromBefore balanceToBefore after := by
  simp only [finalizeTransfer, whenNotPaused, bind_eq_ok, require_eq_ok, exists_const] at computed
  obtain ⟨unpaused, caller, _, valid, moved⟩ := computed
  refine ⟨caller, unpaused, valid, ?_⟩
  by_cases same : sender = recipient
  · simp only [same, ne_eq, not_true, if_false, pure_eq_ok] at moved
    exact .inl ⟨same, moved.symm⟩
  · simp only [same, ne_eq, not_false_eq_true, if_true, bind_eq_ok, SafeMath.sub_eq_ok,
      pure_eq_ok] at moved
    obtain ⟨_, ⟨enough, rfl⟩, fromConfig, sent, toConfig, received, rfl⟩ := moved
    exact .inr ⟨same, enough, fromConfig, toConfig, sent, received, rfl⟩

end LendingPool

namespace LendingPoolCollateralManager

variable {env : Env} {pool after : LendingPool} {msgSender collateralAsset debtAsset user : Address}
variable {amount actual userVariableDebt : Nat}

-- The liquidation pays with one burn, or with both debts in turn.
theorem burnDebt_ok {reserve burned : Reserve}
    (computed : burnDebt env reserve user actual userVariableDebt = .ok burned) :
    (actual ≤ userVariableDebt ∧ reserve.burnVariableDebt user actual = .ok burned) ∨
      (userVariableDebt < actual ∧ ∃ floating,
        (if 0 < userVariableDebt then reserve.burnVariableDebt user userVariableDebt
          else .ok reserve) = .ok floating ∧
        floating.burnStableDebt env.timestamp user (actual - userVariableDebt) = .ok burned) := by
  by_cases covered : actual ≤ userVariableDebt
  · simp only [burnDebt, covered, if_true] at computed
    exact .inl ⟨covered, computed⟩
  · simp only [burnDebt, covered, if_false, bind_eq_ok, SafeMath.sub_eq_ok] at computed
    obtain ⟨floating, first, _, ⟨_, rfl⟩, second⟩ := computed
    exact .inr ⟨Nat.lt_of_not_le covered, floating, first, second⟩

structure DebtRepaid (env : Env) (pool : LendingPool) (debtAsset user : Address)
    (actual userVariableDebt : Nat) (accrued burned rated : Reserve) (after : LendingPool) : Prop where
  accrue : (pool.reserves debtAsset).updateState env.timestamp = .ok accrued
  burn : burnDebt env accrued user actual userVariableDebt = .ok burned
  rate : burned.updateInterestRates env debtAsset burned.lTokenAddress actual 0 = .ok rated
  result : after = pool.setReserve debtAsset rated

theorem repayDebt_ok (computed : repayDebt env pool debtAsset user actual userVariableDebt = .ok after) :
    ∃ accrued burned rated,
      DebtRepaid env pool debtAsset user actual userVariableDebt accrued burned rated after := by
  simp only [repayDebt, bind_eq_ok, pure_eq_ok] at computed
  obtain ⟨accrued, accrue, burned, burn, rated, rate, rfl⟩ := computed
  exact ⟨accrued, burned, rated, accrue, burn, rate, rfl⟩

structure LTokensSeized (env : Env) (pool : LendingPool) (msgSender collateralAsset user : Address)
    (amount previous fromBefore toBefore : Nat) (lToken : LToken) (config : UserConfigurationMap)
    (after : LendingPool) : Prop where
  read : (pool.reserves collateralAsset).lTokenBalanceOf env.timestamp msgSender = .ok previous
  transfer : (pool.reserves collateralAsset).lToken.transfer
    ((pool.reserves collateralAsset).getNormalizedIncome env.timestamp) user msgSender amount =
      .ok (lToken, fromBefore, toBefore)
  flag : (if previous = 0 then (pool.usersConfig msgSender).setUsingAsCollateral
      (pool.reserves collateralAsset).id true else .ok (pool.usersConfig msgSender)) = .ok config
  result : after = (pool.setReserve collateralAsset
    { pool.reserves collateralAsset with lToken }).setUserConfig msgSender config

theorem seizeLTokens_ok
    (computed : seizeLTokens env pool msgSender collateralAsset user amount = .ok after) :
    ∃ previous fromBefore toBefore lToken config, LTokensSeized env pool msgSender collateralAsset
      user amount previous fromBefore toBefore lToken config after := by
  simp only [seizeLTokens, bind_eq_ok, Prod.exists, pure_eq_ok] at computed
  obtain ⟨previous, read, lToken, fromBefore, toBefore, moved, config, flag, rfl⟩ := computed
  exact ⟨previous, fromBefore, toBefore, lToken, config, read, moved, flag, rfl⟩

structure UnderlyingSeized (env : Env) (pool : LendingPool)
    (msgSender collateralAsset user : Address) (amount : Nat) (accrued rated burned : Reserve)
    (after : LendingPool) : Prop where
  accrue : (pool.reserves collateralAsset).updateState env.timestamp = .ok accrued
  rate : accrued.updateInterestRates env collateralAsset accrued.lTokenAddress 0 amount = .ok rated
  burn : rated.burnLToken user msgSender amount = .ok burned
  result : after = pool.setReserve collateralAsset burned

theorem seizeUnderlying_ok
    (computed : seizeUnderlying env pool msgSender collateralAsset user amount = .ok after) :
    ∃ accrued rated burned, UnderlyingSeized env pool msgSender collateralAsset user amount accrued
      rated burned after := by
  simp only [seizeUnderlying, bind_eq_ok, pure_eq_ok] at computed
  obtain ⟨accrued, accrue, rated, rate, burned, burn, rfl⟩ := computed
  exact ⟨accrued, rated, burned, accrue, rate, burn, rfl⟩

structure Executed (env : Env) (pool : LendingPool)
    (msgSender collateralAsset debtAsset user : Address)
    (actual userVariableDebt collateral collateralBalance : Nat) (receiveLToken : Bool)
    (repaid seized : LendingPool) (config : UserConfigurationMap) (funded : Reserve)
    (after : LendingPool) : Prop where
  repay : repayDebt env pool debtAsset user actual userVariableDebt = .ok repaid
  seize : (if receiveLToken then seizeLTokens env repaid msgSender collateralAsset user collateral
    else seizeUnderlying env repaid msgSender collateralAsset user collateral) = .ok seized
  flag : (if collateral = collateralBalance then
      (seized.usersConfig user).setUsingAsCollateral (seized.reserves collateralAsset).id false
    else .ok (seized.usersConfig user)) = .ok config
  fund : (seized.reserves debtAsset).transferUnderlyingFrom seized.self msgSender
    (seized.reserves debtAsset).lTokenAddress actual = .ok funded
  result : after = (seized.setUserConfig user config).setReserve debtAsset funded

theorem executeLiquidation_ok {collateral collateralBalance : Nat} {receiveLToken : Bool}
    (computed : executeLiquidation env pool msgSender collateralAsset debtAsset user actual
      userVariableDebt collateral collateralBalance receiveLToken = .ok after) :
    ∃ repaid seized config funded, Executed env pool msgSender collateralAsset debtAsset user actual
      userVariableDebt collateral collateralBalance receiveLToken repaid seized config funded
      after := by
  simp only [executeLiquidation, bind_eq_ok, pure_eq_ok] at computed
  obtain ⟨repaid, repay, seized, seize, config, flag, funded, fund, rfl⟩ := computed
  exact ⟨repaid, seized, config, funded, repay, seize, flag, fund, rfl⟩

structure Liquidated (env : Env) (pool : LendingPool)
    (msgSender collateralAsset debtAsset user : Address) (debtToCover : Nat) (receiveLToken : Bool)
    (account : UserAccountData) (userStableDebt userVariableDebt collateral collateralBalance
    needed : Nat) (after : LendingPool) : Prop where
  viewed : GenericLogic.calculateUserAccountData env pool user (pool.usersConfig user) = .ok account
  debts : (pool.reserves debtAsset).getUserCurrentDebt env.timestamp user =
    .ok (userStableDebt, userVariableDebt)
  valid : ∃ message, ValidationLogic.validateLiquidationCall (pool.reserves collateralAsset)
    (pool.reserves debtAsset) (pool.usersConfig user) account.healthFactor userStableDebt
    userVariableDebt = .ok (.NO_ERROR, message)
  balance : (pool.reserves collateralAsset).lTokenBalanceOf env.timestamp user =
    .ok collateralBalance
  amounts : calculateAvailableCollateralToLiquidate env (pool.reserves collateralAsset)
    (pool.reserves debtAsset) collateralAsset debtAsset
    (min debtToCover (divHalfUp ((userStableDebt + userVariableDebt) *
      LIQUIDATION_CLOSE_FACTOR_PERCENT) PERCENTAGE_FACTOR)) collateralBalance =
    .ok (collateral, needed)
  liquid : receiveLToken = true ∨
    collateral ≤ (pool.reserves collateralAsset).availableLiquidity
  execute : executeLiquidation env pool msgSender collateralAsset debtAsset user
    (min needed (min debtToCover (divHalfUp ((userStableDebt + userVariableDebt) *
      LIQUIDATION_CLOSE_FACTOR_PERCENT) PERCENTAGE_FACTOR))) userVariableDebt collateral
    collateralBalance receiveLToken = .ok after

theorem liquidationCall_ok {debtToCover : Nat} {receiveLToken : Bool} {message : String}
    (computed : liquidationCall env pool msgSender collateralAsset debtAsset user debtToCover
      receiveLToken = .ok (after, .NO_ERROR, message)) :
    ∃ account userStableDebt userVariableDebt collateral collateralBalance needed,
      Liquidated env pool msgSender collateralAsset debtAsset user debtToCover receiveLToken account
        userStableDebt userVariableDebt collateral collateralBalance needed after := by
  simp only [liquidationCall, bind_eq_ok, Prod.exists] at computed
  obtain ⟨account, viewed, userStableDebt, userVariableDebt, debts, code, text, checked, run⟩ :=
    computed
  by_cases refused : code = .NO_ERROR
  · subst refused
    simp only [ne_eq, not_true, if_false, bind_eq_ok, SafeMath.add_eq_ok, percentMul_eq_ok,
      Prod.exists] at run
    obtain ⟨collateralBalance, balance, _, ⟨_, rfl⟩, _, ⟨_, rfl⟩, collateral, needed, amounts,
      run⟩ := run
    by_cases short : receiveLToken = false ∧
        (pool.reserves collateralAsset).availableLiquidity < collateral
    · simp [short] at run
    · simp only [short, if_false, bind_eq_ok, pure_eq_ok, Prod.mk.injEq] at run
      obtain ⟨_, executed, rfl, _, _⟩ := run
      refine ⟨account, userStableDebt, userVariableDebt, collateral, collateralBalance, needed,
        viewed, debts, ⟨text, checked⟩, balance, amounts, ?_, executed⟩
      cases receiveLToken with
      | true => exact .inl rfl
      | false =>
          right
          by_contra less
          exact short ⟨rfl, Nat.lt_of_not_le less⟩
  · simp [refused] at run

end LendingPoolCollateralManager

namespace LendingPool

variable {env : Env} {pool after : LendingPool} {msgSender collateralAsset debtAsset user : Address}

theorem liquidationCall_ok {debtToCover : Nat} {receiveLToken : Bool}
    (computed : pool.liquidationCall env msgSender collateralAsset debtAsset user debtToCover
      receiveLToken = .ok after) :
    pool.paused = false ∧
      ∃ account userStableDebt userVariableDebt collateral collateralBalance needed,
        LendingPoolCollateralManager.Liquidated env pool msgSender collateralAsset debtAsset user
          debtToCover receiveLToken account userStableDebt userVariableDebt collateral
          collateralBalance needed after := by
  simp only [liquidationCall, whenNotPaused, bind_eq_ok, require_eq_ok, exists_const] at computed
  obtain ⟨unpaused, computed⟩ := computed
  cases managed : LendingPoolCollateralManager.liquidationCall env pool msgSender collateralAsset
      debtAsset user debtToCover receiveLToken with
  | error message => simp [managed] at computed
  | ok returned =>
      obtain ⟨changed, code, message⟩ := returned
      simp only [managed, bind_eq_ok, require_eq_ok, exists_const, pure_eq_ok] at computed
      obtain ⟨rfl, rfl⟩ := computed
      exact ⟨unpaused, LendingPoolCollateralManager.liquidationCall_ok managed⟩

end LendingPool

end PalmyProtocol
