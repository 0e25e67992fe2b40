import PalmyProtocol.Proofs.Consent
import PalmyProtocol.Proofs.DebtsCounted
import PalmyProtocol.Proofs.SoundConfiguration
import PalmyProtocol.System.AccountMoves
import PalmyProtocol.System.LTokenMoves
import Mathlib.Algebra.BigOperators.Ring.Finset

set_option autoImplicit false

namespace PalmyProtocol

open Checked Rounding LendingPool GenericLogic Finset

namespace Reserve

variable {env : Env} {reserve accrued after : Reserve} {user : Address} {amount : Nat}

def slack (index : Nat) : Nat := index / (2 * RAY) + 1

structure Charged (user : Address) (now amount : Nat) (reserve after : Reserve) : Prop where
  balance : reserve.lTokenBalance now user ≤ after.lTokenBalance now user
  same : user ≠ reserve.lToken.treasury →
    after.lTokenBalance now user = reserve.lTokenBalance now user
  debt : after.debt now user ≤ reserve.debt now user + amount + slack after.variableBorrowIndex

theorem balance_of_accrued (user : Address)
    (computed : reserve.updateState env.timestamp = .ok accrued)
    (lToken : after.lToken = accrued.lToken)
    (stamp : after.lastUpdateTimestamp = accrued.lastUpdateTimestamp)
    (index : after.liquidityIndex = accrued.liquidityIndex) :
    reserve.lTokenBalance env.timestamp user ≤ after.lTokenBalance env.timestamp user ∧
      (user ≠ reserve.lToken.treasury →
        after.lTokenBalance env.timestamp user = reserve.lTokenBalance env.timestamp user) := by
  obtain ⟨_, minted, balances, _⟩ := updateState_quiet computed
  obtain ⟨income, liquidity⟩ := income_of_accrued computed stamp index
  rw [lTokenBalance, lTokenBalance, income, liquidity, lToken, balances]
  constructor
  · exact divHalfUp_mono (Nat.mul_le_mul_right _ (Nat.le_add_right _ _)) RAY
  · intro apart
    rw [if_neg apart, Nat.add_zero]

structure Repriced (reserve after : Reserve) : Prop where
  timestamp : after.lastUpdateTimestamp = reserve.lastUpdateTimestamp
  liquidityIndex : after.liquidityIndex = reserve.liquidityIndex
  variableBorrowIndex : after.variableBorrowIndex = reserve.variableBorrowIndex
  lToken : after.lToken = reserve.lToken
  stable : after.stableDebtToken = reserve.stableDebtToken
  floating : after.variableDebtToken = reserve.variableDebtToken

theorem charged_of_stable {msgSender : Address} {rate : Nat} {first : Bool} {minted : Reserve}
    (computed : reserve.updateState env.timestamp = .ok accrued)
    (mint : accrued.mintStableDebt env.timestamp msgSender user amount rate = .ok (minted, first))
    (repriced : Repriced minted after) :
    Charged user env.timestamp amount reserve after := by
  obtain ⟨stableDebtToken, minting, shape⟩ := mintStableDebt_ok mint
  have debts := updateState_sameDebts computed
  obtain ⟨stamp, liquidity, variableIndex, lToken, stable, floating⟩ := repriced
  rw [shape] at stamp liquidity variableIndex lToken stable floating
  obtain ⟨balance, same⟩ := balance_of_accrued user computed lToken stamp liquidity
  refine ⟨balance, same, ?_⟩
  obtain ⟨shown, below⟩ := debt_of_accrued computed stamp variableIndex
  have current : stableDebtToken.timestamps user = env.timestamp := by
    rw [minting.timestamps, Function.update_self, uint40_of_lt env.timestamp_lt]
  have principal := minting.balances user
  rw [if_pos rfl, debts.stable] at principal
  have variableDebt : after.variableDebt env.timestamp user ≤
      reserve.variableDebt env.timestamp user := by
    rw [Reserve.variableDebt, Reserve.variableDebt, floating, debts.floating, shown]
    exact divHalfUp_mono (Nat.mul_le_mul_left _ below) RAY
  rw [debt, debt, stable, StableDebtToken.debt_at_timestamp current, principal]
  omega

theorem charged_of_variable {msgSender : Address} {first : Bool} {minted : Reserve}
    (computed : reserve.updateState env.timestamp = .ok accrued)
    (mint : accrued.mintVariableDebt msgSender user amount = .ok (minted, first))
    (repriced : Repriced minted after) :
    Charged user env.timestamp amount reserve after := by
  obtain ⟨variableDebtToken, minting, shape⟩ := mintVariableDebt_ok mint
  have debts := updateState_sameDebts computed
  obtain ⟨stamp, liquidity, variableIndex, lToken, stable, floating⟩ := repriced
  rw [shape] at stamp liquidity variableIndex lToken stable floating
  obtain ⟨balance, same⟩ := balance_of_accrued user computed lToken stamp liquidity
  refine ⟨balance, same, ?_⟩
  obtain ⟨shown, below⟩ := debt_of_accrued computed stamp variableIndex
  have priced : 0 < after.variableBorrowIndex := by
    rw [variableIndex]
    exact Nat.pos_of_ne_zero minting.index_ne_zero
  have scaled := minting.balances user
  rw [if_pos rfl, debts.floating] at scaled
  have variableDebt : after.variableDebt env.timestamp user ≤
      reserve.variableDebt env.timestamp user + amount + slack after.variableBorrowIndex := by
    have added := divHalfUp_added RAY_pos priced
      (reserve.variableDebtToken.base.balances user) amount
    have grown := divHalfUp_mono
      (Nat.mul_le_mul_left (reserve.variableDebtToken.base.balances user) below) RAY
    rw [Reserve.variableDebt, Reserve.variableDebt, floating, shown, scaled, slack]
    rw [← variableIndex]
    omega
  rw [debt, debt, stable, debts.stable]
  omega

structure Released (user : Address) (now amount : Nat) (reserve after : Reserve) : Prop where
  balance : reserve.lTokenBalance now user ≤
    after.lTokenBalance now user + amount + slack after.liquidityIndex
  debt : after.debt now user ≤ reserve.debt now user

theorem released_of_burned {receiver : Address} {rated : Reserve}
    {liquidityRate stableRate variableRate : Nat}
    (computed : reserve.updateState env.timestamp = .ok accrued)
    (rate : rated = { accrued with
      currentLiquidityRate := liquidityRate
      currentStableBorrowRate := stableRate
      currentVariableBorrowRate := variableRate })
    (burn : rated.burnLToken user receiver amount = .ok after) :
    Released user env.timestamp amount reserve after := by
  obtain ⟨lToken, underlying, burned, _, shape⟩ := burnLToken_ok burn
  have debts := updateState_sameDebts computed
  obtain ⟨_, minted, held, _⟩ := updateState_quiet computed
  rw [rate] at shape
  have stamp : after.lastUpdateTimestamp = accrued.lastUpdateTimestamp := by rw [shape]
  obtain ⟨income, liquidity⟩ := income_of_accrued computed stamp (by rw [shape])
  obtain ⟨shown, floating⟩ := debt_of_accrued computed stamp (by rw [shape])
  constructor
  · have index : rated.liquidityIndex = after.liquidityIndex := by rw [shape, rate]
    have priced := Nat.pos_of_ne_zero burned.index_ne_zero
    have balances := burned.balances user
    rw [index] at priced balances
    rw [if_pos rfl] at balances
    have added := divHalfUp_added RAY_pos priced (lToken.base.balances user) amount
    rw [balances, rate] at added
    have less : reserve.lToken.base.balances user ≤ accrued.lToken.base.balances user := by
      rw [held]
      exact Nat.le_add_right _ _
    have kept : after.lToken = lToken := by rw [shape]
    rw [lTokenBalance, lTokenBalance, income, ← liquidity, kept]
    exact le_trans (divHalfUp_mono (Nat.mul_le_mul_right _ less) RAY) added
  · have stable : after.stableDebtToken = reserve.stableDebtToken := by
      rw [shape]
      exact debts.stable
    have variableDebt : after.variableDebtToken = reserve.variableDebtToken := by
      rw [shape]
      exact debts.floating
    rw [debt, debt, stable, Reserve.variableDebt, Reserve.variableDebt, variableDebt, shown]
    exact Nat.add_le_add_left (divHalfUp_mono (Nat.mul_le_mul_left _ floating) RAY) _

end Reserve

namespace LendingPool

variable {env : Env} {pool after : LendingPool} {asset user : Address}
variable {account account' : UserAccountData}

def roundingInETH (env : Env) (pool : LendingPool) (asset : Address) (index : Nat) : Nat :=
  env.priceOf asset * Reserve.slack index / (pool.reserves asset).unit + 2

theorem executeBorrow_charges {vars : ExecuteBorrowParams}
    (computed : pool.executeBorrow env vars = .ok after) :
    Reserve.Charged vars.onBehalfOf env.timestamp vars.amount (pool.reserves vars.asset)
      (after.reserves vars.asset) := by
  obtain ⟨_, accrued, minted, rated, released, mode, first, config, run⟩ :=
    executeBorrow_ok computed
  obtain ⟨_, _, _, _, rate⟩ := Reserve.updateInterestRates_ok run.rate
  have repriced : Reserve.Repriced minted released := by
    obtain ⟨_, shape⟩ := run.released_eq
    rw [shape, rate.result]
    exact ⟨rfl, rfl, rfl, rfl, rfl, rfl⟩
  rw [run.result, setUserConfig_reserves, setReserve_same]
  have mint := run.mint
  split_ifs at mint
  · exact Reserve.charged_of_stable run.accrue mint repriced
  · exact Reserve.charged_of_variable run.accrue mint repriced

theorem executeBorrow_touches {vars : ExecuteBorrowParams} (registered : Registered pool)
    (computed : pool.executeBorrow env vars = .ok after) :
    Touches vars.asset vars.onBehalfOf pool after ∧
      ∀ i, (after.usersConfig vars.onBehalfOf).collateralises i =
        (pool.usersConfig vars.onBehalfOf).collateralises i := by
  have elsewhere := fun a (different : a ≠ vars.asset) => executeBorrow_other different computed
  obtain ⟨_, accrued, minted, rated, released, mode, first, config, run⟩ :=
    executeBorrow_ok computed
  have same : minted.id = (pool.reserves vars.asset).id := by
    obtain ⟨_, _, _, accrual⟩ := Reserve.updateState_ok run.accrue
    have mint := run.mint
    split_ifs at mint
    · obtain ⟨_, _, shape⟩ := Reserve.mintStableDebt_ok mint
      rw [shape, accrual.result]
    · obtain ⟨_, _, shape⟩ := Reserve.mintVariableDebt_ok mint
      rw [shape, accrual.result]
  have config' : after.usersConfig vars.onBehalfOf = config := by
    rw [run.result, setUserConfig_same]
  have flags : (∀ i, i ≠ (pool.reserves vars.asset).id →
      config.borrows i = (pool.usersConfig vars.onBehalfOf).borrows i) ∧
      ∀ i, config.collateralises i = (pool.usersConfig vars.onBehalfOf).collateralises i := by
    have flag := run.flag
    split_ifs at flag
    · obtain ⟨_, borrows, collateralises⟩ := UserConfigurationMap.setBorrowing_ok flag
      refine ⟨fun i different => ?_, collateralises⟩
      rw [borrows, same, if_neg different]
    · cases flag
      exact ⟨fun _ _ => rfl, fun _ => rfl⟩
  rw [config']
  refine ⟨⟨registered.updateState_listed run.accrue, elsewhere, ?_, ?_⟩, flags.2⟩
  · rw [config']
    exact flags.1
  · rw [config']
    exact fun i _ => flags.2 i

structure Validated (env : Env) (pool : LendingPool) (user : Address) (amountInETH : Nat)
    (account : UserAccountData) : Prop where
  viewed : calculateUserAccountData env pool user (pool.usersConfig user) = .ok account
  needed : ∃ needed, percentDiv (account.totalDebtInETH + amountInETH) account.avgLtv = .ok needed ∧
    needed ≤ account.totalCollateralInETH

theorem validateBorrow_ok {amount amountInETH interestRateMode : Nat}
    (computed : ValidationLogic.validateBorrow env pool asset user amount amountInETH
      interestRateMode = .ok ()) : ∃ account, Validated env pool user amountInETH account := by
  simp only [ValidationLogic.validateBorrow, bind_eq_ok, require_eq_ok, exists_const,
    SafeMath.add_eq_ok] at computed
  obtain ⟨_, _, _, _, _, account, viewed, _, _, _, ⟨_, rfl⟩, needed, divided, there, _⟩ := computed
  exact ⟨account, viewed, needed, divided, there⟩

-- No reserve lends more on its collateral than it is liquidated at, and so it is on average.
theorem ltv_le_threshold {config : UserConfigurationMap}
    (admitted : ∀ a, (pool.reserves a).configuration.Admitted)
    (account_ok : Account env pool user config account) :
    account.avgLtv ≤ account.avgLiquidationThreshold ∧
      account.avgLtv ≤ PERCENTAGE_FACTOR := by
  have order : account.avgLtv ≤ account.avgLiquidationThreshold := by
    rw [account_ok.ltv, account_ok.threshold]
    apply Nat.div_le_div_right
    exact sum_le_sum fun i _ => Nat.mul_le_mul_left _ (admitted _).order
  refine ⟨order, le_trans order ?_⟩
  rw [account_ok.threshold]
  apply Nat.div_le_of_le_mul
  rw [account_ok.collateral, sum_mul]
  exact sum_le_sum fun i _ => Nat.mul_le_mul_left _ (admitted _).threshold_le

-- Without the flag there is no debt, so the view of the debt may stand for what is counted.
theorem debtIn_of_flagged (registered : Registered pool) (flagged : DebtFlagged pool)
    (listed : (pool.reserves asset).lTokenAddress ≠ 0) :
    debtIn env pool asset user = debtInETH env pool user asset := by
  rw [debtIn_eq env user registered listed]
  split_ifs with borrows
  · rfl
  · have clear : ¬(pool.reserves asset).Owes user := fun owing =>
      borrows (flagged user asset listed owing)
    rw [debtInETH, Reserve.debt_of_not_owes clear, Nat.mul_zero, Nat.zero_div]

theorem same_unit (operates : Operates env pool after) (asset : Address) :
    (after.reserves asset).unit = (pool.reserves asset).unit := by
  rw [Reserve.unit, Reserve.unit, (operates.operations asset).settings.configuration]

-- A borrow leaves the debtor's lTokens alone, unless the treasury's share went to the debtor.
theorem executeBorrow_collateral {vars : ExecuteBorrowParams} (registered : Registered pool)
    (computed : pool.executeBorrow env vars = .ok after) :
    collateralIn env pool vars.asset vars.onBehalfOf ≤
        collateralIn env after vars.asset vars.onBehalfOf ∧
      (vars.onBehalfOf ≠ (pool.reserves vars.asset).lToken.treasury →
        collateralIn env after vars.asset vars.onBehalfOf =
          collateralIn env pool vars.asset vars.onBehalfOf) := by
  have operates := executeBorrow_operates computed
  have charged := executeBorrow_charges computed
  obtain ⟨touches, collateralises⟩ := executeBorrow_touches registered computed
  have later := touches.collateralIn_after operates registered
  rw [collateralises] at later
  rw [collateralIn_eq env vars.onBehalfOf registered touches.listed, later, collateralInETH,
    collateralInETH, same_unit operates]
  constructor
  · split_ifs
    · exact Nat.div_le_div_right (Nat.mul_le_mul_left _ charged.balance)
    · exact le_refl _
  · intro apart
    rw [charged.same apart]

theorem executeBorrow_debt {vars : ExecuteBorrowParams} (registered : Registered pool)
    (flagged : DebtFlagged pool) (computed : pool.executeBorrow env vars = .ok after) :
    debtIn env after vars.asset vars.onBehalfOf ≤
      debtIn env pool vars.asset vars.onBehalfOf +
        env.priceOf vars.asset * vars.amount / (pool.reserves vars.asset).unit +
        roundingInETH env pool vars.asset (after.reserves vars.asset).variableBorrowIndex := by
  have operates := executeBorrow_operates computed
  have charged := executeBorrow_charges computed
  obtain ⟨touches, _⟩ := executeBorrow_touches registered computed
  have shown : debtIn env pool vars.asset vars.onBehalfOf =
      debtInETH env pool vars.onBehalfOf vars.asset :=
    debtIn_of_flagged registered flagged touches.listed
  have worthAfter : debtInETH env after vars.onBehalfOf vars.asset ≤
      debtInETH env pool vars.onBehalfOf vars.asset +
        env.priceOf vars.asset * vars.amount / (pool.reserves vars.asset).unit +
        roundingInETH env pool vars.asset (after.reserves vars.asset).variableBorrowIndex := by
    rw [debtInETH, debtInETH, same_unit operates, roundingInETH]
    exact worth_le charged.debt
  rw [shown, touches.debtIn_after operates registered]
  split_ifs
  · exact worthAfter
  · omega

structure BorrowKept (env : Env) (pool after : LendingPool) (asset user : Address) (amount : Nat)
    (account account' : UserAccountData) : Prop where
  debt : account'.totalDebtInETH ≤ account.totalDebtInETH +
    env.priceOf asset * amount / (pool.reserves asset).unit +
      roundingInETH env pool asset (after.reserves asset).variableBorrowIndex
  collateral : account.totalCollateralInETH ≤ account'.totalCollateralInETH
  apart : user ≠ (pool.reserves asset).lToken.treasury →
    account'.totalCollateralInETH = account.totalCollateralInETH
  rounded : HEALTH_FACTOR_LIQUIDATION_THRESHOLD ≤ healthOf
    (account'.totalCollateralInETH * (account'.avgLiquidationThreshold + 1))
    (account'.totalDebtInETH -
      roundingInETH env pool asset (after.reserves asset).variableBorrowIndex)
  exact : account'.totalDebtInETH ≤ account.totalDebtInETH +
      env.priceOf asset * amount / (pool.reserves asset).unit →
    account'.totalCollateralInETH = account.totalCollateralInETH →
    HEALTH_FACTOR_LIQUIDATION_THRESHOLD ≤ account'.healthFactor

theorem executeBorrow_health {vars : ExecuteBorrowParams} (registered : Registered pool)
    (flagged : DebtFlagged pool) (admitted : ∀ a, (pool.reserves a).configuration.Admitted)
    (computed : pool.executeBorrow env vars = .ok after)
    (before : calculateUserAccountData env pool vars.onBehalfOf (pool.usersConfig vars.onBehalfOf) =
      .ok account)
    (later : calculateUserAccountData env after vars.onBehalfOf
      (after.usersConfig vars.onBehalfOf) = .ok account') :
    BorrowKept env pool after vars.asset vars.onBehalfOf vars.amount account account' := by
  have operates := executeBorrow_operates computed
  obtain ⟨touches, _⟩ := executeBorrow_touches registered computed
  have start := calculateUserAccountData_ok registered.count before
  have finish := calculateUserAccountData_ok (registered.evolves operates.evolves).count later
  have moved := touches.moved operates registered start finish
  generalize weightedCollateral env pool vars.onBehalfOf = sum at moved
  generalize weightedCollateral env after vars.onBehalfOf = sum' at moved
  obtain ⟨amountInETH, accrued, minted, rated, released, mode, first, config, run⟩ :=
    executeBorrow_ok computed
  obtain ⟨worth, _⟩ := valueInETH_ok run.value
  obtain ⟨viewed, validated⟩ := validateBorrow_ok run.valid
  obtain ⟨needed, divided, there⟩ := validated.needed
  obtain rfl : viewed = account := Except.ok.inj (validated.viewed.symm.trans before)
  obtain ⟨order, whole⟩ := ltv_le_threshold admitted start
  have covered := healthy_of_covered (covered_of_needed divided there order whole)
  rw [worth] at covered
  have value : env.priceOf vars.asset * vars.amount / tokenUnit
      (pool.reserves vars.asset).configuration.getDecimals =
      env.priceOf vars.asset * vars.amount / (pool.reserves vars.asset).unit := rfl
  rw [value] at covered
  obtain ⟨gained, unmoved⟩ := executeBorrow_collateral registered computed
  have owed := executeBorrow_debt registered flagged computed
  have collateral := moved.collateral
  have debt := moved.debt
  have weighted := moved.weighted
  have share := Nat.mul_le_mul_right
    (pool.reserves vars.asset).configuration.getLiquidationThreshold gained
  refine ⟨by omega, by omega, fun apart => ?_, ?_, fun predicted same => ?_⟩
  · have equal := unmoved apart
    omega
  · refine healthy_mono covered ?_ (by omega)
    rw [moved.threshold, moved.threshold']
    exact weighted_of_sum (by omega) (by omega)
  · have equal : collateralIn env after vars.asset vars.onBehalfOf =
        collateralIn env pool vars.asset vars.onBehalfOf := by omega
    have sums : sum' = sum := by
      rw [equal] at weighted
      omega
    rw [healthFactor_eq finish.healthFactor]
    refine healthy_mono covered ?_ predicted
    rw [moved.threshold, moved.threshold', sums, same]

structure Afforded (env : Env) (pool : LendingPool) (asset : Address) (amount : Nat)
    (account : UserAccountData) : Prop where
  within : env.priceOf asset * amount / (pool.reserves asset).unit ≤ account.totalCollateralInETH
  healthy : HEALTH_FACTOR_LIQUIDATION_THRESHOLD ≤ healthOf
    ((account.totalCollateralInETH - env.priceOf asset * amount / (pool.reserves asset).unit) *
      ((account.totalCollateralInETH * account.avgLiquidationThreshold -
        env.priceOf asset * amount / (pool.reserves asset).unit *
          (pool.reserves asset).configuration.getLiquidationThreshold) /
        (account.totalCollateralInETH - env.priceOf asset * amount / (pool.reserves asset).unit)))
    account.totalDebtInETH

theorem balanceDecreaseAllowed_ok {amount : Nat} {config : UserConfigurationMap}
    (computed : balanceDecreaseAllowed env pool asset user amount config = .ok true)
    (viewed : calculateUserAccountData env pool user config = .ok account) :
    config.isBorrowingAny = false ∨ config.collateralises (pool.reserves asset).id = false ∨
      (pool.reserves asset).configuration.getLiquidationThreshold = 0 ∨
      account.totalDebtInETH = 0 ∨ Afforded env pool asset amount account := by
  by_cases borrowing : config.isBorrowingAny = false
  · exact .inl borrowing
  rw [balanceDecreaseAllowed, if_neg borrowing] at computed
  simp only [bind_eq_ok, UserConfigurationMap.isUsingAsCollateral_eq_ok, viewed] at computed
  obtain ⟨_, ⟨_, rfl⟩, computed⟩ := computed
  by_cases idle : config.collateralises (pool.reserves asset).id = false
  · exact .inr (.inl idle)
  by_cases worthless : (pool.reserves asset).configuration.getLiquidationThreshold = 0
  · exact .inr (.inr (.inl worthless))
  by_cases free : account.totalDebtInETH = 0
  · exact .inr (.inr (.inr (.inl free)))
  refine .inr (.inr (.inr (.inr ?_)))
  rw [if_neg idle, if_neg worthless] at computed
  simp only [bind_eq_ok, Except.ok.injEq] at computed
  obtain ⟨_, rfl, computed⟩ := computed
  rw [if_neg free] at computed
  simp only [bind_eq_ok, SafeMath.sub_eq_ok] at computed
  obtain ⟨decrease, value, _, ⟨within, rfl⟩, computed⟩ := computed
  obtain ⟨worth, _⟩ := valueInETH_ok value
  have unit : env.priceOf asset * amount / tokenUnit
      (pool.reserves asset).configuration.getDecimals =
      env.priceOf asset * amount / (pool.reserves asset).unit := rfl
  rw [unit] at worth
  subst worth
  split_ifs at computed with emptied
  · cases computed
  simp only [bind_eq_ok, SafeMath.mul_eq_ok, SafeMath.sub_eq_ok, SafeMath.div_eq_ok,
    pure_eq_ok] at computed
  obtain ⟨_, ⟨_, rfl⟩, _, ⟨_, rfl⟩, _, ⟨_, rfl⟩, _, ⟨_, rfl⟩, health, factor, safe⟩ := computed
  refine ⟨within, ?_⟩
  rw [← healthFactor_eq factor]
  exact of_decide_eq_true safe

structure WithdrawTouches (env : Env) (pool after : LendingPool) (asset user : Address)
    (withdrawn : Nat) : Prop extends Touches asset user pool after where
  borrowing : (after.usersConfig user).borrows (pool.reserves asset).id =
    (pool.usersConfig user).borrows (pool.reserves asset).id
  flagged : (after.usersConfig user).collateralises (pool.reserves asset).id =
      (pool.usersConfig user).collateralises (pool.reserves asset).id ∨
    ((after.usersConfig user).collateralises (pool.reserves asset).id = false ∧
      withdrawn = (pool.reserves asset).lTokenBalance env.timestamp user)
  released : Reserve.Released user env.timestamp withdrawn (pool.reserves asset)
    (after.reserves asset)

theorem withdraw_touches {recipient : Address} {amount withdrawn : Nat}
    (registered : Registered pool)
    (computed : pool.withdraw env user asset amount recipient = .ok (after, withdrawn)) :
    WithdrawTouches env pool after asset user withdrawn ∧
      balanceDecreaseAllowed env pool asset user withdrawn (pool.usersConfig user) = .ok true := by
  have kept := withdraw_kept computed
  obtain ⟨userBalance, accrued, rated, burned, config, _, run⟩ := withdraw_ok computed
  obtain ⟨_, _, _, _, rate⟩ := Reserve.updateInterestRates_ok run.rate
  have same : rated.id = (pool.reserves asset).id := by
    obtain ⟨_, _, _, accrual⟩ := Reserve.updateState_ok run.accrue
    rw [rate.result, accrual.result]
  have config' : after.usersConfig user = config := by rw [run.result, setUserConfig_same]
  have flags : (∀ i, i ≠ (pool.reserves asset).id →
      config.collateralises i = (pool.usersConfig user).collateralises i) ∧
      (config.collateralises (pool.reserves asset).id =
          (pool.usersConfig user).collateralises (pool.reserves asset).id ∨
        (config.collateralises (pool.reserves asset).id = false ∧ withdrawn = userBalance)) := by
    have flag := run.flag
    split_ifs at flag with whole
    · obtain ⟨_, _, collateralises⟩ := UserConfigurationMap.setUsingAsCollateral_ok flag
      rw [same] at collateralises
      refine ⟨fun i different => ?_, .inr ⟨?_, whole⟩⟩
      · rw [collateralises, if_neg different]
      · rw [collateralises, if_pos rfl]
    · cases flag
      exact ⟨fun _ _ => rfl, .inl rfl⟩
  obtain ⟨_, owned⟩ := Reserve.lTokenBalanceOf_ok run.balance
  have valid := run.valid
  simp only [ValidationLogic.validateWithdraw, bind_eq_ok, require_eq_ok, exists_const] at valid
  obtain ⟨_, _, _, _, allowed, rfl⟩ := valid
  refine ⟨⟨⟨registered.updateState_listed run.accrue, ?_, fun i _ => kept.flags user i, ?_⟩,
    kept.flags user _, ?_, ?_⟩, allowed⟩
  · intro a different
    rw [run.result, setUserConfig_reserves, setReserve_other different]
  · rw [config']
    exact flags.1
  · rw [config', Reserve.lTokenBalance, ← owned]
    exact flags.2
  · rw [run.result, setUserConfig_reserves, setReserve_same]
    exact Reserve.released_of_burned run.accrue rate.result run.burn

structure WithdrawKept (env : Env) (pool after : LendingPool) (asset : Address) (withdrawn : Nat)
    (account account' : UserAccountData) : Prop where
  debt : account'.totalDebtInETH ≤ account.totalDebtInETH
  collateral : account.totalCollateralInETH ≤ account'.totalCollateralInETH +
    env.priceOf asset * withdrawn / (pool.reserves asset).unit +
      roundingInETH env pool asset (after.reserves asset).liquidityIndex
  rounded : HEALTH_FACTOR_LIQUIDATION_THRESHOLD ≤ healthOf
    (account'.totalCollateralInETH * (account'.avgLiquidationThreshold + 1) +
      roundingInETH env pool asset (after.reserves asset).liquidityIndex *
        (pool.reserves asset).configuration.getLiquidationThreshold) account'.totalDebtInETH
  exact : account'.totalCollateralInETH = account.totalCollateralInETH ∨
      account'.totalCollateralInETH + env.priceOf asset * withdrawn / (pool.reserves asset).unit =
        account.totalCollateralInETH →
    HEALTH_FACTOR_LIQUIDATION_THRESHOLD ≤ account'.healthFactor

theorem WithdrawTouches.collateral_le {withdrawn : Nat}
    (touches : WithdrawTouches env pool after asset user withdrawn)
    (operates : Operates env pool after) (registered : Registered pool) :
    collateralIn env pool asset user ≤ collateralIn env after asset user +
        env.priceOf asset * withdrawn / (pool.reserves asset).unit +
        roundingInETH env pool asset (after.reserves asset).liquidityIndex ∧
      (¬((pool.usersConfig user).collateralises (pool.reserves asset).id = true ∧
          (pool.reserves asset).configuration.getLiquidationThreshold ≠ 0) →
        collateralIn env after asset user = collateralIn env pool asset user) := by
  have value : collateralInETH env pool user asset ≤ collateralInETH env after user asset +
      env.priceOf asset * withdrawn / (pool.reserves asset).unit +
      roundingInETH env pool asset (after.reserves asset).liquidityIndex := by
    rw [collateralInETH, collateralInETH, same_unit operates, roundingInETH]
    exact worth_le touches.released.balance
  have gone := touches.collateralIn_after operates registered
  rw [collateralIn_eq env user registered touches.listed]
  rcases touches.flagged with same | ⟨off, whole⟩
  · rw [gone, same]
    constructor
    · split_ifs
      · exact value
      · exact Nat.zero_le _
    · intro uncounted
      rw [if_neg uncounted, if_neg uncounted]
  · rw [if_neg fun both => Bool.false_ne_true (off.symm.trans both.1)] at gone
    rw [gone]
    constructor
    · split_ifs
      · rw [collateralInETH, ← whole]
        omega
      · exact Nat.zero_le _
    · intro uncounted
      rw [if_neg uncounted]

theorem WithdrawTouches.debt_le {withdrawn : Nat}
    (touches : WithdrawTouches env pool after asset user withdrawn)
    (operates : Operates env pool after) (registered : Registered pool) :
    debtIn env after asset user ≤ debtIn env pool asset user := by
  rw [debtIn_eq env user registered touches.listed, touches.debtIn_after operates registered,
    touches.borrowing]
  split_ifs
  · rw [debtInETH, debtInETH, same_unit operates]
    exact Nat.div_le_div_right (Nat.mul_le_mul_left _ touches.released.debt)
  · exact le_refl _

theorem debt_of_no_borrowing {config : UserConfigurationMap} (count : pool.reservesCount ≤ 128)
    (none : config.isBorrowingAny = false) (account_ok : Account env pool user config account) :
    account.totalDebtInETH = 0 := by
  rw [account_ok.debt]
  refine sum_eq_zero fun i inside => ?_
  have off : ¬config.borrows i = true := by
    intro borrows
    have any := UserConfigurationMap.isBorrowingAny_iff.2
      ⟨i, Nat.lt_of_lt_of_le (mem_range.1 inside) count, borrows⟩
    rw [none] at any
    exact Bool.false_ne_true any
  rw [debtAt, if_neg off]

-- What a removal that goes through rests on: no debt, an asset that does not count, or the check.
theorem balanceDecreaseAllowed_grounds {amount : Nat} {config : UserConfigurationMap}
    (count : pool.reservesCount ≤ 128) (start : Account env pool user config account)
    (allowed : balanceDecreaseAllowed env pool asset user amount config = .ok true)
    (viewed : calculateUserAccountData env pool user config = .ok account) :
    account.totalDebtInETH = 0 ∨
      ¬(config.collateralises (pool.reserves asset).id = true ∧
        (pool.reserves asset).configuration.getLiquidationThreshold ≠ 0) ∨
      Afforded env pool asset amount account := by
  rcases balanceDecreaseAllowed_ok allowed viewed with none | idle | worthless | none | afforded
  · exact .inl (debt_of_no_borrowing count none start)
  · exact .inr (.inl fun both => Bool.false_ne_true (idle.symm.trans both.1))
  · exact .inr (.inl fun both => both.2 worthless)
  · exact .inl none
  · exact .inr (.inr afforded)

theorem withdraw_health {recipient : Address} {amount withdrawn : Nat}
    (registered : Registered pool)
    (computed : pool.withdraw env user asset amount recipient = .ok (after, withdrawn))
    (before : calculateUserAccountData env pool user (pool.usersConfig user) = .ok account)
    (later : calculateUserAccountData env after user (after.usersConfig user) = .ok account')
    (healthy : HEALTH_FACTOR_LIQUIDATION_THRESHOLD ≤ account.healthFactor) :
    WithdrawKept env pool after asset withdrawn account account' := by
  have operates := withdraw_operates computed
  obtain ⟨touches, allowed⟩ := withdraw_touches registered computed
  have start := calculateUserAccountData_ok registered.count before
  have grounds := balanceDecreaseAllowed_grounds registered.count start allowed before
  have finish := calculateUserAccountData_ok (registered.evolves operates.evolves).count later
  have moved := touches.moved operates registered start finish
  generalize weightedCollateral env pool user = sum at moved
  generalize weightedCollateral env after user = sum' at moved
  obtain ⟨lost, uncounted⟩ := touches.collateral_le operates registered
  have relieved := touches.debt_le operates registered
  have collateral := moved.collateral
  have debt := moved.debt
  have weighted := moved.weighted
  rw [healthFactor_eq start.healthFactor] at healthy
  rw [moved.threshold] at healthy
  have floor' := moved.weights_le
  have floor : account.totalCollateralInETH * (sum / account.totalCollateralInETH) ≤ sum :=
    Nat.mul_div_le sum account.totalCollateralInETH
  have share := Nat.mul_le_mul_right
    (pool.reserves asset).configuration.getLiquidationThreshold lost
  rw [Nat.add_mul, Nat.add_mul] at share
  have still : account'.totalCollateralInETH = account.totalCollateralInETH →
      HEALTH_FACTOR_LIQUIDATION_THRESHOLD ≤ account'.healthFactor := by
    intro same
    have unmoved : collateralIn env after asset user = collateralIn env pool asset user := by omega
    rw [unmoved] at weighted
    have sums : sum' = sum := by omega
    rw [healthFactor_eq finish.healthFactor, moved.threshold', same, sums]
    exact healthy_mono healthy (le_refl _) (by omega)
  have free : account.totalDebtInETH = 0 → ∀ weighted,
      HEALTH_FACTOR_LIQUIDATION_THRESHOLD ≤ healthOf weighted account'.totalDebtInETH := by
    intro nothing weighted
    rw [healthOf, if_pos (by omega)]
    decide
  have unmoved : collateralIn env after asset user = collateralIn env pool asset user →
      HEALTH_FACTOR_LIQUIDATION_THRESHOLD ≤ healthOf (account'.totalCollateralInETH *
        (account'.avgLiquidationThreshold + 1) +
          roundingInETH env pool asset (after.reserves asset).liquidityIndex *
            (pool.reserves asset).configuration.getLiquidationThreshold)
        account'.totalDebtInETH := by
    intro same
    rw [same] at weighted
    exact healthy_mono healthy (by omega) (by omega)
  refine ⟨by omega, by omega, ?_, ?_⟩
  · rcases grounds with none | apart | afforded
    · exact free none _
    · exact unmoved (uncounted apart)
    · refine healthy_mono afforded.healthy ?_ (by omega)
      refine le_trans (Nat.mul_div_le _ _) ?_
      rw [moved.threshold]
      omega
  · rintro (same | predicted)
    · exact still same
    rcases grounds with none | apart | afforded
    · rw [healthFactor_eq finish.healthFactor]
      exact free none _
    · have same := uncounted apart
      exact still (by omega)
    · have lostExactly : collateralIn env pool asset user = collateralIn env after asset user +
          env.priceOf asset * withdrawn / (pool.reserves asset).unit := by omega
      have left : account.totalCollateralInETH -
          env.priceOf asset * withdrawn / (pool.reserves asset).unit =
            account'.totalCollateralInETH := by omega
      have safe := afforded.healthy
      rw [lostExactly, Nat.add_mul] at weighted
      rw [left, moved.threshold] at safe
      rw [healthFactor_eq finish.healthFactor, moved.threshold']
      refine healthy_mono safe (Nat.mul_le_mul_left _ (Nat.div_le_div_right ?_)) (by omega)
      omega

end LendingPool

namespace World

variable {world next : World} {user : Address}

theorem borrowing_env {event : Event} {b : Borrowing} (named : world.borrowing event = some b)
    (taken : world.step event = .ok next) : next.env = world.env := by
  cases event with
  | call =>
      obtain ⟨_, _, _, _, rfl⟩ := step_call taken
      rfl
  | settle =>
      obtain ⟨_, _, _, _, _, run⟩ := step_settle taken
      rw [run.result]
  | _ => cases named

/-- From any reachable state, at fixed prices and time: a borrow, and a withdrawal by a user who
was healthy before it, leave its health factor at one or above, exactly where what is computed
afterwards is what was checked, and otherwise but for rounding. -/
theorem Reachable.health_kept (reached : world.Reachable) {event : Event}
    {account account' : UserAccountData} (taken : world.step event = .ok next)
    (before : calculateUserAccountData world.env world.pool user (world.pool.usersConfig user) =
      .ok account)
    (later : calculateUserAccountData next.env next.pool user (next.pool.usersConfig user) =
      .ok account') :
    (∀ b, world.borrowing event = some b → b.onBehalfOf = user →
      BorrowKept world.env world.pool next.pool b.asset user b.amount account account') ∧
    ∀ asset amount recipient, event = .call user (.withdraw asset amount recipient) →
      HEALTH_FACTOR_LIQUIDATION_THRESHOLD ≤ account.healthFactor →
      WithdrawKept world.env world.pool next.pool asset
        (if amount = maxUint256 then
          (world.pool.reserves asset).lTokenBalance world.env.timestamp user
        else amount) account account' := by
  have registered := reached.registered
  constructor
  · rintro b named rfl
    rw [borrowing_env named taken] at later
    rcases step_borrows registered taken with ⟨b', _, _, named', _, executed⟩ | ⟨nothing, _⟩
    · obtain rfl : b = b' := Option.some.inj (named.symm.trans named')
      exact executeBorrow_health registered reached.flagged reached.admitted executed before later
    · rw [nothing] at named
      cases named
  · rintro asset amount recipient rfl healthy
    obtain ⟨_, _, pool, executed, rfl⟩ := step_call taken
    simp only [Call.execute, bind_eq_ok, Prod.exists, pure_eq_ok] at executed
    obtain ⟨_, withdrawn, computed, rfl⟩ := executed
    have kept := withdraw_health registered computed before later healthy
    obtain ⟨userBalance, _, _, _, _, sum, run⟩ := withdraw_ok computed
    obtain ⟨_, owned⟩ := Reserve.lTokenBalanceOf_ok run.balance
    rw [Reserve.lTokenBalance, ← owned, ← sum]
    exact kept

-- Lent as much as it is liquidated at: the loan-to-value is the threshold.
def stretched : List Event :=
  Market.opening 10 Market.strategy ++ Market.opening 20 Market.strategy ++
    [.admin 3 (.configureReserveAsCollateral 10 8000 8000 10500),
      .call 100 (.deposit 20 (1000 * WAD) 100), .call 101 (.deposit 10 (75 * WAD / 100) 101),
      .observe { Market.env 2 Market.second_in_time with
        getAssetPrice := fun asset => .ok (if asset = 20 then WAD / 2 else WAD) },
      .call 101 (.borrow 20 (WAD + 1) 2 101)]

theorem health_kept_stretched :
    ∃ (world borrowed withdrawn : World) (account account' account'' : UserAccountData),
      Runs.run step Market.start stretched = .ok world ∧
      world.step (.call 101 (.borrow 20 (WAD / 10) 2 101)) = .ok borrowed ∧
      borrowed.step (.call 101 (.withdraw 10 (WAD / 100) 101)) = .ok withdrawn ∧
      calculateUserAccountData world.env world.pool 101 (world.pool.usersConfig 101) =
        .ok account ∧
      calculateUserAccountData borrowed.env borrowed.pool 101 (borrowed.pool.usersConfig 101) =
        .ok account' ∧
      calculateUserAccountData withdrawn.env withdrawn.pool 101 (withdrawn.pool.usersConfig 101) =
        .ok account'' ∧
      HEALTH_FACTOR_LIQUIDATION_THRESHOLD ≤ account'.healthFactor ∧
      HEALTH_FACTOR_LIQUIDATION_THRESHOLD ≤ account''.healthFactor := by
  have outcome : yields (Runs.run step Market.start stretched) (fun world =>
      yields (world.step (.call 101 (.borrow 20 (WAD / 10) 2 101))) (fun borrowed =>
        yields (borrowed.step (.call 101 (.withdraw 10 (WAD / 100) 101))) (fun withdrawn =>
          yields (calculateUserAccountData world.env world.pool 101 (world.pool.usersConfig 101))
            (fun account =>
          yields (calculateUserAccountData borrowed.env borrowed.pool 101
            (borrowed.pool.usersConfig 101)) (fun account' =>
          yields (calculateUserAccountData withdrawn.env withdrawn.pool 101
            (withdrawn.pool.usersConfig 101)) (fun account'' =>
              (account'.totalDebtInETH ≤ account.totalDebtInETH +
                  world.env.priceOf 20 * (WAD / 10) / (world.pool.reserves 20).unit ∧
                account'.totalCollateralInETH = account.totalCollateralInETH) ∧
              (account''.totalCollateralInETH +
                borrowed.env.priceOf 10 * (WAD / 100) / (borrowed.pool.reserves 10).unit =
                  account'.totalCollateralInETH))))))) := by
    decide +kernel
  obtain ⟨world, ran, facts⟩ := yields_iff.1 outcome
  obtain ⟨borrowed, lent, facts⟩ := yields_iff.1 facts
  obtain ⟨withdrawn, taken, facts⟩ := yields_iff.1 facts
  obtain ⟨account, before, facts⟩ := yields_iff.1 facts
  obtain ⟨account', between, facts⟩ := yields_iff.1 facts
  obtain ⟨account'', later, facts⟩ := yields_iff.1 facts
  obtain ⟨⟨predicted, same⟩, released⟩ := of_decide_eq_true facts
  have reached := Market.reachable_of_run ran
  have healthy := ((Reachable.health_kept reached lent before between).1
    ⟨101, 101, 20, 2, WAD / 10⟩ rfl rfl).exact predicted same
  have reached' : borrowed.Reachable := Runs.Reachable.next reached lent
  have kept := ((Reachable.health_kept reached' taken between later).2 10 (WAD / 100) 101 rfl
    healthy).exact
  rw [if_neg (by decide)] at kept
  exact ⟨world, borrowed, withdrawn, account, account', account'', ran, lent, taken, before, between,
    later, healthy, kept (.inr released)⟩

-- Two halves that were floored apart are a whole in the sum: the last wei of debt has no collateral.
theorem health_lost_stretched :
    ¬∀ (world next : World) (msgSender user asset : Address) (amount mode : Nat)
      (account account' : UserAccountData), world.Reachable →
      world.step (.call msgSender (.borrow asset amount mode user)) = .ok next →
      calculateUserAccountData world.env world.pool user (world.pool.usersConfig user) =
        .ok account →
      calculateUserAccountData next.env next.pool user (next.pool.usersConfig user) =
        .ok account' →
      HEALTH_FACTOR_LIQUIDATION_THRESHOLD ≤ account.healthFactor →
      HEALTH_FACTOR_LIQUIDATION_THRESHOLD ≤ account'.healthFactor := by
  intro every
  have outcome : yields (Runs.run step Market.start stretched) (fun world =>
      yields (world.step (.call 101 (.borrow 20 (WAD / 5 + 1) 2 101))) (fun next =>
        yields (calculateUserAccountData world.env world.pool 101 (world.pool.usersConfig 101))
          (fun account =>
        yields (calculateUserAccountData next.env next.pool 101 (next.pool.usersConfig 101))
          (fun account' => HEALTH_FACTOR_LIQUIDATION_THRESHOLD ≤ account.healthFactor ∧
            account'.healthFactor < HEALTH_FACTOR_LIQUIDATION_THRESHOLD)))) := by
    decide +kernel
  obtain ⟨world, ran, facts⟩ := yields_iff.1 outcome
  obtain ⟨next, taken, facts⟩ := yields_iff.1 facts
  obtain ⟨account, before, facts⟩ := yields_iff.1 facts
  obtain ⟨account', later, facts⟩ := yields_iff.1 facts
  obtain ⟨healthy, lost⟩ := of_decide_eq_true facts
  have kept := every world next 101 101 20 (WAD / 5 + 1) 2 account account'
    (Market.reachable_of_run ran) taken before later healthy
  omega

end World

end PalmyProtocol
