import PalmyProtocol.System.LTokenMoves

set_option autoImplicit false

namespace PalmyProtocol

open Checked Rounding LendingPool

namespace LendingPool

variable {env : Env} {pool after : LendingPool} {msgSender asset user onBehalfOf : Address}
variable {amount i : Nat}

structure Cleared (user : Address) (i : Nat) (pool after : LendingPool) : Prop where
  before : (pool.usersConfig user).collateralises i = true
  after : (after.usersConfig user).collateralises i = false

theorem not_cleared (same : after.usersConfig = pool.usersConfig) : ¬Cleared user i pool after := by
  intro cleared
  have before := cleared.before
  rw [← same, cleared.after] at before
  cases before

theorem flag_cleared {config config' : UserConfigurationMap} {condition : Prop}
    [Decidable condition] {id : Nat} {flag : Bool} (before : config.collateralises i = true)
    (after : config'.collateralises i = false)
    (computed : (if condition then config.setUsingAsCollateral id flag else .ok config) =
      .ok config') : i = id ∧ flag = false := by
  split_ifs at computed
  · have bit := (UserConfigurationMap.setUsingAsCollateral_ok computed).2.2 i
    rw [before, after] at bit
    split_ifs at bit with here
    exact ⟨here, bit.symm⟩
  · cases computed
    rw [before] at after
    cases after

theorem cleared_setUserConfig {config : UserConfigurationMap} {written : Address}
    (same : after.usersConfig = pool.usersConfig)
    (cleared : Cleared user i pool (after.setUserConfig written config)) :
    user = written ∧ config.collateralises i = false := by
  have gone := cleared.after
  by_cases here : user = written
  · subst here
    rw [setUserConfig_same] at gone
    exact ⟨rfl, gone⟩
  · rw [setUserConfig_other here, same, cleared.before] at gone
    cases gone

theorem deposit_clears (cleared : Cleared user i pool after)
    (computed : pool.deposit env msgSender asset amount onBehalfOf = .ok after) : False := by
  obtain ⟨_, _, _, _, _, _, run⟩ := deposit_ok computed
  rw [run.result] at cleared
  obtain ⟨rfl, gone⟩ := cleared_setUserConfig setReserve_usersConfig cleared
  exact absurd (flag_cleared cleared.before gone run.flag).2 (by simp)

theorem executeBorrow_clears {vars : ExecuteBorrowParams} (cleared : Cleared user i pool after)
    (computed : pool.executeBorrow env vars = .ok after) : False := by
  obtain ⟨_, _, _, _, _, _, _, config, run⟩ := executeBorrow_ok computed
  rw [run.result] at cleared
  obtain ⟨rfl, gone⟩ := cleared_setUserConfig setReserve_usersConfig cleared
  have before := cleared.before
  have flag := run.flag
  split_ifs at flag
  · rw [(UserConfigurationMap.setBorrowing_ok flag).2.2, before] at gone
    cases gone
  · cases flag
    rw [before] at gone
    cases gone

theorem repay_clears_nothing {rateMode payback : Nat} (cleared : Cleared user i pool after)
    (computed : pool.repay env msgSender asset amount rateMode onBehalfOf = .ok (after, payback)) :
    False := by
  obtain ⟨_, _, _, _, _, _, _, config, _, run⟩ := repay_ok computed
  rw [run.result] at cleared
  obtain ⟨rfl, gone⟩ := cleared_setUserConfig setReserve_usersConfig cleared
  have before := cleared.before
  have flag := run.flag
  split_ifs at flag
  · rw [(UserConfigurationMap.setBorrowing_ok flag).2.2, before] at gone
    cases gone
  · cases flag
    rw [before] at gone
    cases gone

theorem withdraw_clears {recipient : Address} {withdrawn : Nat} (cleared : Cleared user i pool after)
    (computed : pool.withdraw env msgSender asset amount recipient = .ok (after, withdrawn)) :
    user = msgSender ∧ (pool.reserves asset).lTokenAddress ≠ 0 ∧ i = (pool.reserves asset).id := by
  obtain ⟨_, accrued, rated, _, _, _, run⟩ := withdraw_ok computed
  obtain ⟨listed, _⟩ := Reserve.lTokenBalanceOf_ok run.balance
  have same := (Reserve.Keeps.of_operations
    ((Reserve.Operations.single (.accrue run.accrue)).tail (.rate run.rate))).id
  rw [run.result] at cleared
  obtain ⟨rfl, gone⟩ := cleared_setUserConfig setReserve_usersConfig cleared
  exact ⟨rfl, listed, (flag_cleared cleared.before gone run.flag).1.trans same⟩

theorem setUserUseReserveAsCollateral_clears {useAsCollateral : Bool}
    (cleared : Cleared user i pool after)
    (computed : pool.setUserUseReserveAsCollateral env msgSender asset useAsCollateral = .ok after) :
    user = msgSender ∧ (pool.reserves asset).lTokenAddress ≠ 0 ∧ i = (pool.reserves asset).id ∧
      useAsCollateral = false := by
  obtain ⟨config, valid, flag, rfl⟩ := setUserUseReserveAsCollateral_ok computed
  simp only [ValidationLogic.validateSetUseReserveAsCollateral, bind_eq_ok] at valid
  obtain ⟨_, balance, _⟩ := valid
  obtain ⟨listed, _⟩ := Reserve.lTokenBalanceOf_ok balance
  obtain ⟨rfl, gone⟩ := cleared_setUserConfig rfl cleared
  have written : (if True then (pool.usersConfig user).setUsingAsCollateral
      (pool.reserves asset).id useAsCollateral else .ok (pool.usersConfig user)) = .ok config := by
    rw [if_pos trivial, flag]
  obtain ⟨here, off⟩ := flag_cleared cleared.before gone written
  exact ⟨rfl, listed, here, off⟩

-- Of the two users whose flags a transfer writes, only the sender's bit can be cleared.
theorem moveLTokens_clears {sender recipient : Address} (cleared : Cleared user i pool after)
    (computed : pool.moveLTokens env asset sender recipient amount = .ok after) :
    user = sender ∧ sender ≠ recipient ∧ (pool.reserves asset).lTokenAddress ≠ 0 ∧
      i = (pool.reserves asset).id := by
  obtain ⟨lToken, _, _, run⟩ := moveLTokens_ok computed
  rcases run.finalize.result with ⟨_, rfl⟩ | ⟨apart, _, fromConfig, toConfig, sent, received, rfl⟩
  · exact absurd cleared (not_cleared rfl)
  · have gone := cleared.after
    by_cases receives : user = recipient
    · subst receives
      rw [setUserConfig_same] at gone
      exact absurd (flag_cleared cleared.before gone received).2 (by simp)
    · rw [setUserConfig_other receives] at gone
      by_cases sends : user = sender
      · subst sends
        rw [setUserConfig_same] at gone
        obtain ⟨here, _⟩ := flag_cleared cleared.before gone sent
        rw [setReserve_same] at here
        exact ⟨rfl, apart, run.listed, here⟩
      · rw [setUserConfig_other sends, setReserve_usersConfig, cleared.before] at gone
        cases gone

open LendingPoolCollateralManager in
theorem liquidationCall_clears {collateralAsset debtAsset borrower : Address} {debtToCover : Nat}
    {receiveLToken : Bool} (cleared : Cleared user i pool after)
    (computed : pool.liquidationCall env msgSender collateralAsset debtAsset borrower debtToCover
      receiveLToken = .ok after) :
    user = borrower ∧ (pool.reserves collateralAsset).lTokenAddress ≠ 0 ∧
      i = (pool.reserves collateralAsset).id := by
  obtain ⟨_, _, _, _, _, _, _, run⟩ := liquidationCall_ok computed
  obtain ⟨listed, _⟩ := Reserve.lTokenBalanceOf_ok run.balance
  obtain ⟨repaid, seized, config, funded, exec⟩ := executeLiquidation_ok run.execute
  have paid : repaid.usersConfig = pool.usersConfig := by
    obtain ⟨_, _, _, leg⟩ := repayDebt_ok exec.repay
    rw [leg.result, setReserve_usersConfig]
  have seize := exec.seize
  have taken : (seized.usersConfig user).collateralises i = true := by
    split_ifs at seize
    · obtain ⟨_, _, _, _, flagged, leg⟩ := seizeLTokens_ok seize
      by_contra lost
      have gone : Cleared user i pool (repaid.setUserConfig msgSender flagged) := by
        refine ⟨cleared.before, ?_⟩
        rw [leg.result] at lost
        exact Bool.eq_false_iff.2 lost
      obtain ⟨rfl, off⟩ := cleared_setUserConfig paid gone
      have before := cleared.before
      rw [← paid] at before
      exact absurd (flag_cleared before off leg.flag).2 (by simp)
    · obtain ⟨_, _, _, leg⟩ := seizeUnderlying_ok seize
      rw [leg.result, setReserve_usersConfig, paid]
      exact cleared.before
  have same : (seized.reserves collateralAsset).id = (pool.reserves collateralAsset).id := by
    have repay := Reserve.Keeps.of_operations
      ((repayDebt_operates exec.repay).operations collateralAsset)
    exact (Reserve.Keeps.of_operations
      ((seize_operates exec.seize).operations collateralAsset)).id.trans repay.id
  have written : Cleared user i seized (seized.setUserConfig borrower config) := by
    refine ⟨taken, ?_⟩
    have gone := cleared.after
    rwa [exec.result, setReserve_usersConfig] at gone
  obtain ⟨rfl, gone⟩ := cleared_setUserConfig rfl written
  exact ⟨rfl, listed, (flag_cleared taken gone exec.flag).1.trans same⟩

end LendingPool

namespace Call

variable {env : Env} {pool after : LendingPool} {msgSender user : Address} {i : Nat}

-- A call clears collateral bits of its sources only, but for a user's own choice.
theorem execute_clears {call : Call} (cleared : Cleared user i pool after)
    (computed : call.execute env pool msgSender = .ok after) :
    ∃ asset, (pool.reserves asset).lTokenAddress ≠ 0 ∧ i = (pool.reserves asset).id ∧
      (call.source asset msgSender = some user ∨
        msgSender = user ∧ call = .setUserUseReserveAsCollateral asset false) := by
  cases call with
  | deposit => exact absurd computed fun computed => deposit_clears cleared computed
  | withdraw asset =>
      simp only [execute, bind_eq_ok, Prod.exists, pure_eq_ok] at computed
      obtain ⟨_, _, computed, rfl⟩ := computed
      obtain ⟨rfl, listed, here⟩ := withdraw_clears cleared computed
      exact ⟨asset, listed, here, .inl (if_pos rfl)⟩
  | borrow =>
      simp only [execute, LendingPool.borrow, bind_eq_ok] at computed
      obtain ⟨_, _, computed⟩ := computed
      exact absurd computed fun computed => executeBorrow_clears cleared computed
  | repay =>
      simp only [execute, bind_eq_ok, Prod.exists, pure_eq_ok] at computed
      obtain ⟨_, _, computed, rfl⟩ := computed
      exact absurd computed fun computed => repay_clears_nothing cleared computed
  | swapBorrowRateMode =>
      obtain ⟨_, _, _, _, _, _, _, _, _, run⟩ := swapBorrowRateMode_ok computed
      rw [run.result] at cleared
      exact absurd cleared (not_cleared rfl)
  | rebalanceStableBorrowRate =>
      obtain ⟨_, _, _, _, _, _, run⟩ := rebalanceStableBorrowRate_ok computed
      rw [run.result] at cleared
      exact absurd cleared (not_cleared rfl)
  | setUserUseReserveAsCollateral asset =>
      obtain ⟨rfl, listed, here, rfl⟩ := setUserUseReserveAsCollateral_clears cleared computed
      exact ⟨asset, listed, here, .inr ⟨rfl, rfl⟩⟩
  | liquidationCall collateralAsset =>
      obtain ⟨rfl, listed, here⟩ := liquidationCall_clears cleared computed
      exact ⟨collateralAsset, listed, here, .inl (if_pos rfl)⟩
  | transfer asset =>
      obtain ⟨rfl, apart, listed, here⟩ := moveLTokens_clears cleared computed
      exact ⟨asset, listed, here, .inl (if_pos ⟨rfl, apart⟩)⟩
  | transferFrom asset =>
      simp only [execute, LendingPool.transferFrom, bind_eq_ok] at computed
      obtain ⟨moved, move, allowed⟩ := computed
      obtain ⟨_, _, _, rfl⟩ := updateAllowance_ok allowed
      have there : Cleared user i pool moved := ⟨cleared.before, cleared.after⟩
      obtain ⟨rfl, apart, listed, here⟩ := moveLTokens_clears there move
      exact ⟨asset, listed, here, .inl (if_pos ⟨rfl, apart⟩)⟩
  | approve | increaseAllowance | decreaseAllowance =>
      simp only [execute, LendingPool.approve, LendingPool.increaseAllowance,
        LendingPool.decreaseAllowance] at computed
      obtain ⟨_, _, _, rfl⟩ := updateAllowance_ok computed
      exact absurd cleared (not_cleared rfl)
  | approveStableDelegation | approveVariableDelegation =>
      simp only [execute, LendingPool.approveStableDelegation,
        LendingPool.approveVariableDelegation, bind_eq_ok, pure_eq_ok] at computed
      obtain ⟨_, _, rfl⟩ := computed
      exact absurd cleared (not_cleared rfl)

end Call

namespace ValidationLogic

theorem validateLiquidationCall_ok {collateralReserve principalReserve : Reserve}
    {userConfig : UserConfigurationMap} {userHealthFactor userStableDebt userVariableDebt : Nat}
    {message : String}
    (valid : validateLiquidationCall collateralReserve principalReserve userConfig
      userHealthFactor userStableDebt userVariableDebt = .ok (.NO_ERROR, message)) :
    collateralReserve.configuration.getActive = true ∧
      principalReserve.configuration.getActive = true ∧
      userHealthFactor < HEALTH_FACTOR_LIQUIDATION_THRESHOLD ∧
      0 < collateralReserve.configuration.getLiquidationThreshold ∧
      userConfig.collateralises collateralReserve.id = true := by
  simp only [validateLiquidationCall, ite_eq_ok, Except.ok.injEq, Prod.mk.injEq,
    reduceCtorEq, false_and, and_false, false_or, bind_eq_ok, pure_eq_ok, not_or,
    Bool.not_eq_false, Nat.not_le] at valid
  obtain ⟨⟨collateral, principal⟩, unhealthy, enabled, chosen, on, _⟩ := valid
  rcases chosen with ⟨threshold, used⟩ | ⟨_, rfl⟩
  · rw [on] at used
    exact ⟨collateral, principal, unhealthy, threshold,
      (UserConfigurationMap.isUsingAsCollateral_eq_ok.1 used).2⟩
  · cases on

end ValidationLogic

namespace World

variable {world next : World} {asset user : Address}

inductive Authorised (world next : World) (asset user : Address) : Event → Prop where
  | withdraw (amount : Nat) (recipient : Address) :
      Authorised world next asset user (.call user (.withdraw asset amount recipient))
  | transfer (recipient : Address) (amount : Nat) :
      Authorised world next asset user (.call user (.transfer asset recipient amount))
  | transferFrom {spender recipient : Address} {amount index shares : Nat}
      (allowed : amount ≤ (world.pool.reserves asset).lToken.base.allowances user spender)
      (income : (world.pool.reserves asset).getNormalizedIncome world.env.timestamp = .ok index)
      (scaled : rayDiv amount index = .ok shares)
      (fallen : (next.pool.reserves asset).lToken.scaledBalanceOf user + shares =
        (world.pool.reserves asset).lToken.scaledBalanceOf user)
      (spent : (next.pool.reserves asset).lToken.base.allowances user spender + amount =
        (world.pool.reserves asset).lToken.base.allowances user spender) :
      Authorised world next asset user (.call spender (.transferFrom asset user recipient amount))
  | liquidation {liquidator debtAsset : Address} {debtToCover : Nat} {receiveLToken : Bool}
      {account : UserAccountData}
      (viewed : GenericLogic.calculateUserAccountData world.env world.pool user
        (world.pool.usersConfig user) = .ok account)
      (unhealthy : account.healthFactor < HEALTH_FACTOR_LIQUIDATION_THRESHOLD)
      (collateralActive : (world.pool.reserves asset).configuration.getActive = true)
      (debtActive : (world.pool.reserves debtAsset).configuration.getActive = true)
      (threshold : 0 < (world.pool.reserves asset).configuration.getLiquidationThreshold)
      (pledged : (world.pool.usersConfig user).collateralises (world.pool.reserves asset).id = true) :
      Authorised world next asset user
        (.call liquidator (.liquidationCall asset debtAsset user debtToCover receiveLToken))

theorem transferFrom_authorised {spender recipient : Address} {amount : Nat} {after : LendingPool}
    (apart : user ≠ recipient)
    (computed : world.pool.transferFrom world.env spender asset user recipient amount = .ok after) :
    Authorised world (world.withPool after) asset user
      (.call spender (.transferFrom asset user recipient amount)) := by
  simp only [LendingPool.transferFrom, bind_eq_ok] at computed
  obtain ⟨moved, move, allowed⟩ := computed
  obtain ⟨lToken, _, _, run⟩ := moveLTokens_ok move
  obtain ⟨index, income, transferred⟩ := LToken.transfer_ok run.transfer
  obtain ⟨_, base, spend, result⟩ := updateAllowance_ok allowed
  obtain ⟨enough, balances, _, allowances⟩ := ERC20.spendAllowance_ok spend
  have here : (moved.reserves asset).lToken = lToken := by
    rcases run.finalize.result with ⟨_, rfl⟩ | ⟨_, _, _, _, _, _, rfl⟩ <;> simp
  have there : ((world.withPool after).pool.reserves asset).lToken.base = base := by
    change (after.reserves asset).lToken.base = base
    rw [result, setReserve_same]
  rw [here] at enough balances allowances
  rw [transferred.allowances] at enough allowances
  have scaled : rayDiv amount index = .ok (divHalfUp (amount * RAY) index) := by
    have leg := run.transfer
    simp only [LToken.transfer, bind_eq_ok] at leg
    obtain ⟨_, read, _, _, _, _, shares, divided, _⟩ := leg
    rw [income] at read
    cases read
    rw [divided, (rayDiv_ok divided).2]
  refine .transferFrom enough income scaled ?_ ?_
  · have balance := transferred.balances user
    rw [if_pos rfl, if_neg apart, Nat.add_zero] at balance
    rw [LToken.scaledBalanceOf, LToken.scaledBalanceOf, there, balances]
    exact balance
  · rw [there, allowances, ERC20.setAllowance_same]
    exact Nat.sub_add_cancel enough

theorem liquidation_authorised {liquidator debtAsset : Address} {debtToCover : Nat}
    {receiveLToken : Bool} {after : LendingPool}
    (computed : world.pool.liquidationCall world.env liquidator asset debtAsset user debtToCover
      receiveLToken = .ok after) :
    Authorised world next asset user
      (.call liquidator (.liquidationCall asset debtAsset user debtToCover receiveLToken)) := by
  obtain ⟨_, _, _, _, _, _, _, run⟩ := liquidationCall_ok computed
  obtain ⟨_, valid⟩ := run.valid
  obtain ⟨collateral, principal, unhealthy, threshold, pledged⟩ :=
    ValidationLogic.validateLiquidationCall_ok valid
  exact .liquidation run.viewed unhealthy collateral principal threshold pledged

theorem administered_usersConfig {env : Env} {pool after : LendingPool}
    (registered : pool.Registered) (administered : Administered env pool after) :
    after.usersConfig = pool.usersConfig := by
  cases administered with
  | listed computed =>
      refine (listings_induction (fun later => later.usersConfig = pool.usersConfig) ?_ registered
        rfl computed).2
      intro _ _ _ _ _ same entered
      rw [entered.result]
      exact same
  | configured | chosen | paused => rfl

theorem step_id {event : Event} (registered : world.pool.Registered)
    (listed : (world.pool.reserves asset).lTokenAddress ≠ 0)
    (taken : world.step event = .ok next) :
    (next.pool.reserves asset).id = (world.pool.reserves asset).id := by
  rcases step_evolves taken with ⟨_, _, _, computed⟩ | evolves
  · obtain ⟨_, _, shape⟩ := administered_listed registered listed (.listed computed)
    rw [shape]
  · exact (evolves.keeps asset).id

theorem source_authorised {msgSender : Address} {call : Call} {after : LendingPool}
    (source : call.source asset msgSender = some user)
    (executed : call.execute world.env world.pool msgSender = .ok after) :
    Authorised world (world.withPool after) asset user (.call msgSender call) := by
  cases call with
  | withdraw named amount recipient =>
      obtain ⟨rfl, same⟩ := Option.ite_none_right_eq_some.1 source
      cases same
      exact .withdraw amount recipient
  | transfer named recipient amount =>
      obtain ⟨⟨rfl, _⟩, same⟩ := Option.ite_none_right_eq_some.1 source
      cases same
      exact .transfer recipient amount
  | transferFrom named sender recipient amount =>
      obtain ⟨⟨rfl, apart⟩, same⟩ := Option.ite_none_right_eq_some.1 source
      cases same
      exact transferFrom_authorised apart executed
  | liquidationCall collateralAsset =>
      obtain ⟨rfl, same⟩ := Option.ite_none_right_eq_some.1 source
      cases same
      exact liquidation_authorised executed
  | _ => cases source

theorem step_clears {event : Event} {i : Nat} (registered : world.pool.Registered)
    (cleared : Cleared user i world.pool next.pool) (taken : world.step event = .ok next) :
    ∃ msgSender call, event = .call msgSender call := by
  cases event with
  | call msgSender call => exact ⟨msgSender, call, rfl⟩
  | admin =>
      obtain ⟨pool, administered, rfl⟩ := step_admin taken
      exact absurd cleared (not_cleared (administered_usersConfig registered administered))
  | flashLoan =>
      obtain ⟨pool, pending, run⟩ := step_flashLoan taken
      rw [run.result] at cleared
      exact absurd cleared (not_cleared (openFlashLoan_usersConfig run.opened))
  | executed =>
      obtain ⟨_, _, _, _, rfl⟩ := step_executed taken
      exact absurd cleared (not_cleared rfl)
  | settle =>
      obtain ⟨_, _, _, _, pool, run⟩ := step_settle taken
      rw [run.result] at cleared
      obtain ⟨_, _, _, _, ⟨_, _, _, _, _, _, paid⟩ | ⟨_, borrowed⟩⟩ := settleFlashLoan_ok run.settle
      · rw [paid.result] at cleared
        exact absurd cleared (not_cleared rfl)
      · exact absurd borrowed fun borrowed => executeBorrow_clears cleared borrowed
  | finish =>
      obtain ⟨_, _, _, _, rfl⟩ := step_finish taken
      exact absurd cleared (not_cleared rfl)
  | ledger =>
      obtain ⟨_, rfl⟩ := step_ledger taken
      exact absurd cleared (not_cleared rfl)
  | observe =>
      obtain ⟨_, _, rfl⟩ := step_observe taken
      exact absurd cleared (not_cleared rfl)

/-- Nobody loses lTokens, or the use of them as collateral, to somebody without authority. -/
theorem Reachable.deposits_authorised (reached : world.Reachable) {event : Event}
    (listed : (world.pool.reserves asset).lTokenAddress ≠ 0)
    (taken : world.step event = .ok next) :
    ((next.pool.reserves asset).lToken.scaledBalanceOf user <
        (world.pool.reserves asset).lToken.scaledBalanceOf user →
      Authorised world next asset user event) ∧
    ((world.pool.usersConfig user).collateralises (world.pool.reserves asset).id = true →
      (next.pool.usersConfig user).collateralises (next.pool.reserves asset).id = false →
      Authorised world next asset user event ∨
        event = .call user (.setUserUseReserveAsCollateral asset false)) := by
  have registered := reached.registered
  constructor
  · intro less
    rcases step_lTokens registered listed taken with
      ⟨msgSender, call, sender, _, sent, _, rfl, lTokens⟩ | quiet
    · obtain ⟨rfl, some⟩ := lTokens.moves.less less
      obtain ⟨_, _, pool, executed, rfl⟩ := step_call taken
      exact source_authorised (lTokens.source some) executed
    · exact absurd ((quiet.moves 0 0).less less).2 (by simp)
  · intro before after
    rw [step_id registered listed taken] at after
    have cleared : Cleared user _ world.pool next.pool := ⟨before, after⟩
    obtain ⟨msgSender, call, rfl⟩ := step_clears registered cleared taken
    obtain ⟨_, _, pool, executed, rfl⟩ := step_call taken
    obtain ⟨other, listed', here, source⟩ := Call.execute_clears cleared executed
    -- the bit of an id belongs to one listed asset
    obtain rfl := registered.id_injective listed listed' here
    rcases source with source | ⟨rfl, rfl⟩
    · exact .inl (source_authorised source executed)
    · exact .inr rfl

def entrusted : List Event :=
  Market.opening 10 Market.strategy ++
    [.call 101 (.deposit 10 (100 * WAD) 101), .call 101 (.approve 10 104 (150 * WAD))]

def collecting : Event := .call 104 (.transferFrom 10 101 105 (100 * WAD))

theorem deposits_authorised_entrusted :
    ∃ world next : World, Runs.run step Market.start entrusted = .ok world ∧
      world.step collecting = .ok next ∧
      (next.pool.reserves 10).lToken.scaledBalanceOf 101 <
        (world.pool.reserves 10).lToken.scaledBalanceOf 101 ∧
      (next.pool.usersConfig 101).collateralises (next.pool.reserves 10).id = false ∧
      Authorised world next 10 101 collecting ∧
      (Authorised world next 10 101 collecting ∨
        collecting = .call 101 (.setUserUseReserveAsCollateral 10 false)) := by
  have outcome : yields (Runs.run step Market.start entrusted) (fun world =>
      decide ((world.pool.reserves 10).lTokenAddress ≠ 0) &&
      (world.pool.usersConfig 101).collateralises (world.pool.reserves 10).id &&
      yields (world.step collecting) (fun next =>
        decide ((next.pool.reserves 10).lToken.scaledBalanceOf 101 <
          (world.pool.reserves 10).lToken.scaledBalanceOf 101) &&
        decide ((next.pool.usersConfig 101).collateralises (next.pool.reserves 10).id = false))) := by
    decide +kernel
  obtain ⟨world, ran, facts⟩ := yields_iff.1 outcome
  obtain ⟨facts, moved⟩ := (Bool.and_eq_true _ _).mp facts
  obtain ⟨listed, pledged⟩ := (Bool.and_eq_true _ _).mp facts
  obtain ⟨next, taken, facts⟩ := yields_iff.1 moved
  obtain ⟨less, gone⟩ := (Bool.and_eq_true _ _).mp facts
  have listed := of_decide_eq_true listed
  have less := of_decide_eq_true less
  have gone := of_decide_eq_true gone
  have reached := Market.reachable_of_run ran
  exact ⟨world, next, ran, taken, less, gone,
    (Reachable.deposits_authorised reached listed taken).1 less,
    (Reachable.deposits_authorised reached listed taken).2 pledged gone⟩

end World

end PalmyProtocol
