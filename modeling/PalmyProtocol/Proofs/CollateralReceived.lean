import PalmyProtocol.System.AccountMoves
import PalmyProtocol.System.BorrowingFlags
import PalmyProtocol.System.LTokenMoves
import PalmyProtocol.System.WorldSteps

set_option autoImplicit false

namespace PalmyProtocol

open Checked Rounding LendingPool GenericLogic Finset

namespace Reserve

variable {env : Env} {reserve accrued after : Reserve} {user : Address}

structure Favours (env : Env) (user : Address) (reserve after : Reserve) : Prop where
  balance : reserve.lTokenBalance env.timestamp user ≤ after.lTokenBalance env.timestamp user
  debt : after.debt env.timestamp user ≤ reserve.debt env.timestamp user

theorem favours_of_accrued {lToken : LToken} {underlying : ERC20}
    {liquidityRate stableRate variableRate : Nat}
    (computed : reserve.updateState env.timestamp = .ok accrued)
    (received : accrued.lToken.base.balances user ≤ lToken.base.balances user)
    (shape : after = { accrued with
      lToken, underlying
      currentLiquidityRate := liquidityRate
      currentStableBorrowRate := stableRate
      currentVariableBorrowRate := variableRate }) : Favours env user reserve after := by
  obtain ⟨_, _, minted, _⟩ := updateState_quiet computed
  have same := updateState_sameDebts computed
  have stamp : after.lastUpdateTimestamp = accrued.lastUpdateTimestamp := by rw [shape]
  obtain ⟨income, liquidity⟩ := income_of_accrued computed stamp (by rw [shape])
  obtain ⟨shown, floating⟩ := debt_of_accrued computed stamp (by rw [shape])
  constructor
  · rw [lTokenBalance, lTokenBalance, income, liquidity]
    apply divHalfUp_mono
    apply Nat.mul_le_mul_right
    have held := minted user
    rw [shape]
    exact le_trans (by omega) received
  · have stable : after.stableDebtToken = reserve.stableDebtToken := by
      rw [shape]
      exact same.stable
    have variableDebt : after.variableDebtToken = reserve.variableDebtToken := by
      rw [shape]
      exact same.floating
    rw [debt, debt, stable, Reserve.variableDebt, Reserve.variableDebt, variableDebt, shown]
    exact Nat.add_le_add_left (divHalfUp_mono (Nat.mul_le_mul_left _ floating) RAY) _

end Reserve

namespace LendingPool

variable {env : Env} {pool after : LendingPool} {asset user msgSender : Address} {amount : Nat}

structure Endows (env : Env) (asset user : Address) (pool after : LendingPool) : Prop
    extends Touches asset user pool after where
  favours : Reserve.Favours env user (pool.reserves asset) (after.reserves asset)
  borrowing : (after.usersConfig user).borrows (pool.reserves asset).id =
    (pool.usersConfig user).borrows (pool.reserves asset).id
  flagged : (pool.usersConfig user).collateralises (pool.reserves asset).id = true →
    (after.usersConfig user).collateralises (pool.reserves asset).id = true

theorem flag_endows {config config' : UserConfigurationMap} {condition : Prop}
    [Decidable condition] {id : Nat}
    (computed : (if condition then config.setUsingAsCollateral id true else .ok config) =
      .ok config') : (∀ i, i ≠ id → config'.collateralises i = config.collateralises i) ∧
        (config.collateralises id = true → config'.collateralises id = true) := by
  split_ifs at computed
  · have bits := (UserConfigurationMap.setUsingAsCollateral_ok computed).2.2
    refine ⟨fun i different => ?_, fun _ => ?_⟩
    · rw [bits, if_neg different]
    · rw [bits, if_pos rfl]
  · cases computed
    exact ⟨fun _ _ => rfl, fun on => on⟩

theorem deposit_endows (registered : Registered pool)
    (computed : pool.deposit env msgSender asset amount user = .ok after) :
    Endows env asset user pool after := by
  have kept := deposit_kept computed
  obtain ⟨accrued, rated, funded, minted, first, config, run⟩ := deposit_ok computed
  obtain ⟨_, _, _, _, rate⟩ := Reserve.updateInterestRates_ok run.rate
  obtain ⟨_, _, fundShape⟩ := Reserve.transferUnderlyingFrom_ok run.fund
  obtain ⟨_, mint, mintShape⟩ := Reserve.mintLToken_ok run.mint
  have same : minted.id = (pool.reserves asset).id := by
    obtain ⟨_, _, _, accrual⟩ := Reserve.updateState_ok run.accrue
    rw [mintShape, fundShape, rate.result, accrual.result]
  obtain ⟨others, on⟩ := flag_endows run.flag
  rw [same] at others on
  have config' : after.usersConfig user = config := by rw [run.result, setUserConfig_same]
  refine ⟨⟨registered.updateState_listed run.accrue, ?_, fun i _ => kept.flags user i, ?_⟩, ?_,
    kept.flags user _, ?_⟩
  · intro a different
    rw [run.result, setUserConfig_reserves, setReserve_other different]
  · rw [config']
    exact others
  · rw [run.result, setUserConfig_reserves, setReserve_same]
    refine Reserve.favours_of_accrued run.accrue ?_ (by rw [mintShape, fundShape, rate.result])
    have received := mint.balances user
    rw [fundShape, rate.result] at received
    rw [received]
    exact Nat.le_add_right _ _
  · rw [config']
    exact on

theorem moveLTokens_endows {sender : Address}
    (computed : pool.moveLTokens env asset sender user amount = .ok after) :
    Endows env asset user pool after := by
  have kept := moveLTokens_kept computed
  obtain ⟨lToken, fromBefore, toBefore, run⟩ := moveLTokens_ok computed
  obtain ⟨index, _, moved⟩ := LToken.transfer_ok run.transfer
  have here : after.reserves asset = { pool.reserves asset with lToken } := by
    rcases run.finalize.result with ⟨_, rfl⟩ | ⟨_, _, _, _, _, _, rfl⟩
    · rw [setReserve_same]
    · rw [setUserConfig_reserves, setUserConfig_reserves, setReserve_same]
  have flags : (∀ i, i ≠ (pool.reserves asset).id →
      (after.usersConfig user).collateralises i = (pool.usersConfig user).collateralises i) ∧
      ((pool.usersConfig user).collateralises (pool.reserves asset).id = true →
        (after.usersConfig user).collateralises (pool.reserves asset).id = true) := by
    rcases run.finalize.result with ⟨_, rfl⟩ | ⟨_, _, fromConfig, toConfig, _, flag, rfl⟩
    · exact ⟨fun _ _ => rfl, id⟩
    · rw [setUserConfig_same]
      simpa using flag_endows flag
  refine ⟨⟨run.listed, ?_, fun i _ => kept.flags user i, flags.1⟩, ?_, kept.flags user _, flags.2⟩
  · intro a different
    rcases run.finalize.result with ⟨_, rfl⟩ | ⟨_, _, _, _, _, _, rfl⟩
    · rw [setReserve_other different]
    · rw [setUserConfig_reserves, setUserConfig_reserves, setReserve_other different]
  · have received : (pool.reserves asset).lToken.base.balances user ≤ lToken.base.balances user := by
      have balance := moved.balances user
      generalize divHalfUp (amount * RAY) index = sent at balance
      rw [if_pos rfl] at balance
      split_ifs at balance <;> omega
    rw [here]
    exact ⟨divHalfUp_mono (Nat.mul_le_mul_right _ received) RAY, le_refl _⟩

end LendingPool

namespace LendingPool.Endows

variable {env : Env} {pool after : LendingPool} {asset user : Address}
variable {account account' : UserAccountData}

theorem collateralInETH_le (endows : Endows env asset user pool after)
    (operates : Operates env pool after) :
    collateralInETH env pool user asset ≤ collateralInETH env after user asset := by
  have settings := (operates.operations asset).settings
  rw [collateralInETH, collateralInETH, Reserve.unit, Reserve.unit, settings.configuration]
  exact Nat.div_le_div_right (Nat.mul_le_mul_left _ endows.favours.balance)

theorem debtInETH_le (endows : Endows env asset user pool after)
    (operates : Operates env pool after) :
    debtInETH env after user asset ≤ debtInETH env pool user asset := by
  have settings := (operates.operations asset).settings
  rw [debtInETH, debtInETH, Reserve.unit, Reserve.unit, settings.configuration]
  exact Nat.div_le_div_right (Nat.mul_le_mul_left _ endows.favours.debt)

theorem effect (endows : Endows env asset user pool after) (operates : Operates env pool after)
    (registered : Registered pool)
    (before : Account env pool user (pool.usersConfig user) account)
    (later : Account env after user (after.usersConfig user) account') :
    account.totalCollateralInETH ≤ account'.totalCollateralInETH ∧
      account'.totalDebtInETH ≤ account.totalDebtInETH ∧
      (∃ sum, account.avgLiquidationThreshold = sum / account.totalCollateralInETH ∧
        account'.avgLiquidationThreshold =
          (sum + (account'.totalCollateralInETH - account.totalCollateralInETH) *
            (pool.reserves asset).configuration.getLiquidationThreshold) /
          account'.totalCollateralInETH) ∧
      ((pool.reserves asset).configuration.getLiquidationThreshold = 0 →
        account.totalCollateralInETH = account'.totalCollateralInETH) := by
  have moved := endows.moved operates registered before later
  generalize weightedCollateral env pool user = sum at moved
  generalize weightedCollateral env after user = sum' at moved
  have collateralBefore := collateralIn_eq env user registered endows.listed
  have collateralAfter := endows.collateralIn_after operates registered
  have grown : collateralIn env pool asset user ≤ collateralIn env after asset user := by
    have value := endows.collateralInETH_le operates
    rw [collateralBefore, collateralAfter]
    by_cases counted : (pool.usersConfig user).collateralises (pool.reserves asset).id = true ∧
        (pool.reserves asset).configuration.getLiquidationThreshold ≠ 0
    · rw [if_pos counted, if_pos ⟨endows.flagged counted.1, counted.2⟩]
      exact value
    · rw [if_neg counted]
      exact Nat.zero_le _
  have relieved : debtIn env after asset user ≤ debtIn env pool asset user := by
    have value := endows.debtInETH_le operates
    rw [debtIn_eq env user registered endows.listed, endows.debtIn_after operates registered,
      endows.borrowing]
    split_ifs
    · exact value
    · exact le_refl _
  have collateral := moved.collateral
  have debt := moved.debt
  refine ⟨by omega, by omega, ⟨sum, moved.threshold, ?_⟩, ?_⟩
  · have difference : account'.totalCollateralInETH - account.totalCollateralInETH =
        collateralIn env after asset user - collateralIn env pool asset user := by omega
    have weighted := moved.weighted
    rw [moved.threshold', difference, Nat.sub_mul]
    congr 1
    have share := Nat.mul_le_mul_right
      (pool.reserves asset).configuration.getLiquidationThreshold grown
    omega
  · intro worthless
    rw [worthless] at collateralBefore collateralAfter
    simp only [ne_eq, not_true, and_false, if_false] at collateralBefore collateralAfter
    omega

end LendingPool.Endows

def Call.gives (user : Address) : Call → Option Address
  | deposit asset _ onBehalfOf => if onBehalfOf = user then some asset else none
  | transfer asset recipient _ => if recipient = user then some asset else none
  | transferFrom asset _ recipient _ => if recipient = user then some asset else none
  | _ => none

theorem Call.execute_endows {env : Env} {pool after : LendingPool} {msgSender user asset : Address}
    {call : Call} (registered : Registered pool) (gives : call.gives user = some asset)
    (computed : call.execute env pool msgSender = .ok after) :
    Endows env asset user pool after := by
  cases call with
  | deposit named amount onBehalfOf =>
      obtain ⟨rfl, rfl⟩ : onBehalfOf = user ∧ named = asset := by simpa [Call.gives] using gives
      exact deposit_endows registered computed
  | transfer named recipient amount =>
      obtain ⟨rfl, rfl⟩ : recipient = user ∧ named = asset := by simpa [Call.gives] using gives
      exact moveLTokens_endows computed
  | transferFrom named sender recipient amount =>
      obtain ⟨rfl, rfl⟩ : recipient = user ∧ named = asset := by simpa [Call.gives] using gives
      simp only [execute, LendingPool.transferFrom, bind_eq_ok] at computed
      obtain ⟨middle, moved, allowed⟩ := computed
      have endows := moveLTokens_endows moved
      obtain ⟨_, base, spent, rfl⟩ := updateAllowance_ok allowed
      obtain ⟨_, balances, _⟩ := ERC20.spendAllowance_ok spent
      refine ⟨⟨endows.listed, ?_, endows.borrows, endows.collateralises⟩, ?_, endows.borrowing,
        endows.flagged⟩
      · intro a different
        rw [setReserve_other different]
        exact endows.elsewhere a different
      · rw [setReserve_same]
        refine ⟨?_, endows.favours.debt⟩
        change _ ≤ divHalfUp (base.balances recipient * _) RAY
        rw [balances]
        exact endows.favours.balance
  | withdraw | borrow | repay | swapBorrowRateMode | rebalanceStableBorrowRate
  | setUserUseReserveAsCollateral | liquidationCall | approve | increaseAllowance
  | decreaseAllowance | approveStableDelegation | approveVariableDelegation => cases gives

namespace World

variable {world next : World}

/-- Receiving lTokens lowers a health factor by no more than what flooring the average threshold to
a basis point may cost, and where the asset's own threshold is not below the average, by nothing.
-/
theorem Reachable.collateral_received (reached : world.Reachable) {msgSender user asset : Address}
    {call : Call} {account account' : UserAccountData} (gives : call.gives user = some asset)
    (taken : world.step (.call msgSender call) = .ok next)
    (before : calculateUserAccountData world.env world.pool user (world.pool.usersConfig user) =
      .ok account)
    (later : calculateUserAccountData next.env next.pool user (next.pool.usersConfig user) =
      .ok account') :
    account.totalCollateralInETH ≤ account'.totalCollateralInETH ∧
      account'.totalDebtInETH ≤ account.totalDebtInETH ∧
      (∀ healthFactor, calculateHealthFactorFromBalances account'.totalCollateralInETH
        account'.totalDebtInETH (account'.avgLiquidationThreshold + 1) = .ok healthFactor →
          account.healthFactor ≤ healthFactor) ∧
      ((world.pool.reserves asset).configuration.getLiquidationThreshold = 0 ∨
        account.avgLiquidationThreshold ≤
          (world.pool.reserves asset).configuration.getLiquidationThreshold →
        account.healthFactor ≤ account'.healthFactor) := by
  have registered := reached.registered
  obtain ⟨_, _, pool, executed, rfl⟩ := step_call taken
  have operates := Call.execute_operates executed
  have endows := Call.execute_endows registered gives executed
  have start := calculateUserAccountData_ok registered.count before
  have finish := calculateUserAccountData_ok (registered.evolves operates.evolves).count later
  obtain ⟨collateral, debt, ⟨sum, threshold, threshold'⟩, worthless⟩ :=
    endows.effect operates registered start finish
  refine ⟨collateral, debt, ?_, ?_⟩
  · intro healthFactor raised
    refine healthFactor_mono start.healthFactor raised ?_ debt
    rw [threshold, threshold']
    exact weighted_of_sum (Nat.le_add_right _ _) collateral
  · intro above
    refine healthFactor_mono start.healthFactor finish.healthFactor ?_ debt
    refine Nat.mul_le_mul collateral ?_
    rw [threshold, threshold']
    refine average_of_added collateral ?_
    rcases above with none | above
    · exact .inl (worthless none)
    · exact .inr (threshold ▸ above)

-- Thresholds of 80% and of 75%; a deposit that is small beside what is there already.
def mixed : List Event :=
  Market.opening 10 Market.strategy ++ Market.opening 20 Market.strategy ++
    [.admin 3 (.configureReserveAsCollateral 20 7000 7500 10500),
      .call 100 (.deposit 20 (1000 * WAD) 100), .call 101 (.deposit 10 (100 * WAD) 101),
      .call 101 (.borrow 20 (50 * WAD) 2 101)]

theorem collateral_received_mixed :
    ∃ (world next : World) (account account' : UserAccountData),
      Runs.run step Market.start mixed = .ok world ∧
      world.step (.call 102 (.deposit 10 WAD 101)) = .ok next ∧
      calculateUserAccountData world.env world.pool 101 (world.pool.usersConfig 101) =
        .ok account ∧
      calculateUserAccountData next.env next.pool 101 (next.pool.usersConfig 101) = .ok account' ∧
      (account.avgLiquidationThreshold ≤
        (world.pool.reserves 10).configuration.getLiquidationThreshold ∧
        account.healthFactor ≤ account'.healthFactor) := by
  have outcome : yields (Runs.run step Market.start mixed) (fun world =>
      yields (world.step (.call 102 (.deposit 10 WAD 101))) (fun next =>
        yields (calculateUserAccountData world.env world.pool 101 (world.pool.usersConfig 101))
          (fun account => account.avgLiquidationThreshold ≤
            (world.pool.reserves 10).configuration.getLiquidationThreshold &&
          yields (calculateUserAccountData next.env next.pool 101 (next.pool.usersConfig 101))
            (fun _ => true)))) := by
    decide +kernel
  obtain ⟨world, ran, facts⟩ := yields_iff.1 outcome
  obtain ⟨next, taken, views⟩ := yields_iff.1 facts
  obtain ⟨account, before, above⟩ := yields_iff.1 views
  obtain ⟨above, viewed⟩ := (Bool.and_eq_true _ _).mp above
  obtain ⟨account', later, _⟩ := yields_iff.1 viewed
  have above := of_decide_eq_true above
  have received := Reachable.collateral_received (Market.reachable_of_run ran) (by rfl) taken before
    later
  exact ⟨world, next, account, account', ran, taken, before, later, above,
    received.2.2.2 (.inr above)⟩

-- One of the second asset is a gift that costs a basis point of the average and gives less.
theorem collateral_harms_mixed :
    ¬∀ (world next : World) (msgSender user asset : Address) (call : Call)
      (account account' : UserAccountData), world.Reachable → msgSender ≠ user →
      call.gives user = some asset → world.step (.call msgSender call) = .ok next →
      calculateUserAccountData world.env world.pool user (world.pool.usersConfig user) =
        .ok account →
      calculateUserAccountData next.env next.pool user (next.pool.usersConfig user) =
        .ok account' →
      account.healthFactor ≤ account'.healthFactor := by
  intro every
  have outcome : yields (Runs.run step Market.start mixed) (fun world =>
      yields (world.step (.call 102 (.deposit 20 (WAD / 1000) 101))) (fun next =>
        yields (calculateUserAccountData world.env world.pool 101 (world.pool.usersConfig 101))
          (fun account =>
          yields (calculateUserAccountData next.env next.pool 101 (next.pool.usersConfig 101))
            (fun account' => account'.healthFactor < account.healthFactor)))) := by
    decide +kernel
  obtain ⟨world, ran, facts⟩ := yields_iff.1 outcome
  obtain ⟨next, taken, views⟩ := yields_iff.1 facts
  obtain ⟨account, before, viewed⟩ := yields_iff.1 views
  obtain ⟨account', later, lower⟩ := yields_iff.1 viewed
  have lower := of_decide_eq_true lower
  have kept := every world next 102 101 20 (.deposit 20 (WAD / 1000) 101) account account'
    (Market.reachable_of_run ran) (by decide) (by rfl) taken before later
  omega

end World

end PalmyProtocol
