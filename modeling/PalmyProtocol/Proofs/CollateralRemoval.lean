import PalmyProtocol.Proofs.HealthKept

set_option autoImplicit false

namespace PalmyProtocol

open Checked Rounding LendingPool GenericLogic Finset

namespace LendingPool

variable {env : Env} {pool after : LendingPool} {asset user : Address}
variable {account account' : UserAccountData}

-- The interest in ETH that the view of the user's debt shows and an accrual leaves out: without a
-- liquidity rate, or without variable debt, it does not move the borrow index.
def leftOutIn (env : Env) (pool : LendingPool) (asset user : Address) : Nat :=
  if (pool.usersConfig user).borrows (pool.reserves asset).id = true ∧
      ((pool.reserves asset).currentLiquidityRate = 0 ∨
        (pool.reserves asset).variableDebtToken.base.totalSupply = 0) then
    debtInETH env pool user asset -
      env.priceOf asset * ((pool.reserves asset).stableDebtToken.debt env.timestamp user +
        divHalfUp ((pool.reserves asset).variableDebtToken.base.balances user *
          (pool.reserves asset).variableBorrowIndex) RAY) / (pool.reserves asset).unit
  else 0

structure FlagOff (asset user : Address) (pool after : LendingPool) : Prop extends
    Touches asset user pool after where
  borrowing : (after.usersConfig user).borrows (pool.reserves asset).id =
    (pool.usersConfig user).borrows (pool.reserves asset).id
  off : (after.usersConfig user).collateralises (pool.reserves asset).id = false

theorem flagOff_setUserConfig {config : UserConfigurationMap}
    (listed : (pool.reserves asset).lTokenAddress ≠ 0)
    (flag : (pool.usersConfig user).setUsingAsCollateral (pool.reserves asset).id false =
      .ok config) : FlagOff asset user pool (pool.setUserConfig user config) := by
  obtain ⟨_, borrows, collateralises⟩ := UserConfigurationMap.setUsingAsCollateral_ok flag
  refine ⟨⟨listed, fun _ _ => rfl, fun i _ => ?_, fun i different => ?_⟩, ?_, ?_⟩
  · rw [setUserConfig_same, borrows]
  · rw [setUserConfig_same, collateralises, if_neg different]
  · rw [setUserConfig_same, borrows]
  · rw [setUserConfig_same, collateralises, if_pos rfl]

theorem FlagOff.collateralIn_gone (cleared : FlagOff asset user pool after)
    (operates : Operates env pool after) (registered : Registered pool) :
    collateralIn env after asset user = 0 := by
  rw [cleared.collateralIn_after operates registered]
  exact if_neg fun both => Bool.false_ne_true (cleared.off.symm.trans both.1)

theorem debtIn_setUserConfig {config : UserConfigurationMap} (registered : Registered pool)
    (listed : (pool.reserves asset).lTokenAddress ≠ 0)
    (flag : (pool.usersConfig user).setUsingAsCollateral (pool.reserves asset).id false =
      .ok config) :
    debtIn env (pool.setUserConfig user config) asset user = debtIn env pool asset user := by
  have cleared := flagOff_setUserConfig listed flag
  rw [debtIn_eq env user registered listed,
    cleared.debtIn_after (operates_setUserConfig config) registered, cleared.borrowing]
  rfl

-- The account without the asset: less its collateral and its weight, with its debt read anew.
structure Removed (env : Env) (pool after : LendingPool) (asset user : Address)
    (account account' : UserAccountData) : Prop where
  collateral : account'.totalCollateralInETH + collateralIn env pool asset user =
    account.totalCollateralInETH
  debt : account'.totalDebtInETH + debtIn env pool asset user =
    account.totalDebtInETH + debtIn env after asset user
  within : collateralIn env pool asset user *
    (pool.reserves asset).configuration.getLiquidationThreshold ≤ weightedCollateral env pool user
  threshold : account.avgLiquidationThreshold =
    weightedCollateral env pool user / account.totalCollateralInETH
  threshold' : account'.avgLiquidationThreshold =
    (weightedCollateral env pool user - collateralIn env pool asset user *
      (pool.reserves asset).configuration.getLiquidationThreshold) / account'.totalCollateralInETH

theorem FlagOff.removed (cleared : FlagOff asset user pool after)
    (operates : Operates env pool after) (registered : Registered pool)
    (before : Account env pool user (pool.usersConfig user) account)
    (later : Account env after user (after.usersConfig user) account') :
    Removed env pool after asset user account account' := by
  have moved := cleared.moved operates registered before later
  have gone := cleared.collateralIn_gone operates registered
  have collateral := moved.collateral
  have weighted := moved.weighted
  rw [gone, Nat.add_zero] at collateral
  rw [gone, Nat.zero_mul, Nat.add_zero] at weighted
  refine ⟨collateral, moved.debt, by omega, moved.threshold, ?_⟩
  rw [moved.threshold', ← weighted, Nat.add_sub_cancel]

def Counts (pool : LendingPool) (asset user : Address) : Prop :=
  (pool.usersConfig user).collateralises (pool.reserves asset).id = true ∧
    (pool.reserves asset).configuration.getLiquidationThreshold ≠ 0

-- Either the account is healthy, or it is what it was because the asset was not counted.
def SafeOrSame (pool : LendingPool) (asset user : Address) (account account' : UserAccountData) :
    Prop :=
  HEALTH_FACTOR_LIQUIDATION_THRESHOLD ≤ account'.healthFactor ∨
    (¬Counts pool asset user ∧ account'.totalCollateralInETH = account.totalCollateralInETH ∧
      account'.totalDebtInETH = account.totalDebtInETH ∧
      account'.avgLiquidationThreshold = account.avgLiquidationThreshold)

theorem collateralIn_counted (registered : Registered pool)
    (listed : (pool.reserves asset).lTokenAddress ≠ 0) (counted : Counts pool asset user) :
    collateralIn env pool asset user = collateralInETH env pool user asset :=
  (collateralIn_eq env user registered listed).trans (if_pos counted)

theorem collateralIn_uncounted (registered : Registered pool)
    (listed : (pool.reserves asset).lTokenAddress ≠ 0) (uncounted : ¬Counts pool asset user) :
    collateralIn env pool asset user = 0 :=
  (collateralIn_eq env user registered listed).trans (if_neg uncounted)

theorem Removed.uncounted (removed : Removed env pool after asset user account account')
    (registered : Registered pool) (listed : (pool.reserves asset).lTokenAddress ≠ 0)
    (uncounted : ¬Counts pool asset user) :
    account'.totalCollateralInETH = account.totalCollateralInETH ∧
      account'.avgLiquidationThreshold = account.avgLiquidationThreshold := by
  have nothing : collateralIn env pool asset user = 0 :=
    collateralIn_uncounted registered listed uncounted
  have collateral := removed.collateral
  have threshold := removed.threshold'
  rw [nothing, Nat.add_zero] at collateral
  rw [nothing, Nat.zero_mul, Nat.sub_zero, collateral, ← removed.threshold] at threshold
  exact ⟨collateral, threshold⟩

-- The check of a whole counted balance is sound: what it rounded, it rounded down.
theorem Removed.healthy {balance : Nat}
    (removed : Removed env pool after asset user account account')
    (registered : Registered pool) (listed : (pool.reserves asset).lTokenAddress ≠ 0)
    (counted : Counts pool asset user)
    (owned : balance = (pool.reserves asset).lTokenBalance env.timestamp user)
    (relieved : debtIn env after asset user ≤ debtIn env pool asset user)
    (allowed : balanceDecreaseAllowed env pool asset user balance (pool.usersConfig user) =
      .ok true)
    (before : calculateUserAccountData env pool user (pool.usersConfig user) = .ok account)
    (start : Account env pool user (pool.usersConfig user) account)
    (factor : calculateHealthFactorFromBalances account'.totalCollateralInETH
      account'.totalDebtInETH account'.avgLiquidationThreshold = .ok account'.healthFactor) :
    HEALTH_FACTOR_LIQUIDATION_THRESHOLD ≤ account'.healthFactor := by
  have collateral := removed.collateral
  have debt := removed.debt
  have free : account.totalDebtInETH = 0 →
      HEALTH_FACTOR_LIQUIDATION_THRESHOLD ≤ account'.healthFactor := by
    intro nothing
    rw [healthFactor_eq factor, healthOf, if_pos (by omega)]
    decide
  rcases balanceDecreaseAllowed_grounds registered.count start allowed before with
    none | apart | afforded
  · exact free none
  · exact absurd counted apart
  · have contribution : collateralIn env pool asset user = collateralInETH env pool user asset :=
      collateralIn_counted registered listed counted
    rw [collateralInETH, ← owned] at contribution
    have safe := afforded.healthy
    rw [← contribution, removed.threshold] at safe
    have left : account.totalCollateralInETH - collateralIn env pool asset user =
        account'.totalCollateralInETH := by omega
    rw [left] at safe
    rw [healthFactor_eq factor, removed.threshold']
    refine healthy_mono safe (Nat.mul_le_mul_left _ (Nat.div_le_div_right ?_)) (by omega)
    exact Nat.sub_le_sub_right (Nat.mul_div_le _ _) _

theorem Removed.debt_eq (removed : Removed env pool after asset user account account')
    (same : debtIn env after asset user = debtIn env pool asset user) :
    account'.totalDebtInETH = account.totalDebtInETH := by
  have debt := removed.debt
  omega

theorem setUserUseReserveAsCollateral_safe (registered : Registered pool)
    (computed : pool.setUserUseReserveAsCollateral env user asset false = .ok after)
    (before : calculateUserAccountData env pool user (pool.usersConfig user) = .ok account)
    (later : calculateUserAccountData env after user (after.usersConfig user) = .ok account') :
    SafeOrSame pool asset user account account' := by
  have operates := setUserUseReserveAsCollateral_operates computed
  obtain ⟨config, valid, flag, rfl⟩ := setUserUseReserveAsCollateral_ok computed
  simp only [ValidationLogic.validateSetUseReserveAsCollateral, Bool.false_eq_true, if_false,
    bind_eq_ok, require_eq_ok, exists_const] at valid
  obtain ⟨balance, read, _, _, allowed, rfl⟩ := valid
  obtain ⟨listed, owned⟩ := Reserve.lTokenBalanceOf_ok read
  have cleared := flagOff_setUserConfig listed flag
  have start := calculateUserAccountData_ok registered.count before
  have finish := calculateUserAccountData_ok (registered.evolves operates.evolves).count later
  have removed := cleared.removed operates registered start finish
  have same : debtIn env (pool.setUserConfig user config) asset user =
      debtIn env pool asset user := debtIn_setUserConfig registered listed flag
  by_cases counted : Counts pool asset user
  · exact .inl (removed.healthy registered listed counted owned (Nat.le_of_eq same) allowed before
      start finish.healthFactor)
  · obtain ⟨collateral, threshold⟩ := removed.uncounted registered listed counted
    exact .inr ⟨counted, collateral, removed.debt_eq same, threshold⟩

-- Withdrawing a whole balance: the flag goes, and the debt is read at the stored index.
theorem withdraw_whole {recipient : Address} {withdrawn : Nat} (registered : Registered pool)
    (computed : pool.withdraw env user asset maxUint256 recipient = .ok (after, withdrawn)) :
    FlagOff asset user pool after ∧
      withdrawn = (pool.reserves asset).lTokenBalance env.timestamp user ∧
      (after.reserves asset).debt env.timestamp user =
        (pool.reserves asset).storedDebt env.timestamp user := by
  obtain ⟨touches, _⟩ := withdraw_touches registered computed
  obtain ⟨userBalance, accrued, rated, burned, config, sum, run⟩ := withdraw_ok computed
  rw [if_pos rfl] at sum
  subst sum
  obtain ⟨_, owned⟩ := Reserve.lTokenBalanceOf_ok run.balance
  obtain ⟨_, _, _, accrual⟩ := Reserve.updateState_ok run.accrue
  obtain ⟨_, _, _, _, rate⟩ := Reserve.updateInterestRates_ok run.rate
  obtain ⟨_, _, _, _, burn⟩ := Reserve.burnLToken_ok run.burn
  have flag := run.flag
  rw [if_pos rfl] at flag
  obtain ⟨_, _, collateralises⟩ := UserConfigurationMap.setUsingAsCollateral_ok flag
  refine ⟨⟨touches.toTouches, touches.borrowing, ?_⟩, owned, ?_⟩
  · have same : rated.id = (pool.reserves asset).id := by rw [rate.result, accrual.result]
    rw [run.result, setUserConfig_same, collateralises, if_pos same.symm]
  · have debts := Reserve.updateState_sameDebts run.accrue
    have result : after.reserves asset = burned := by
      rw [run.result, setUserConfig_reserves, setReserve_same]
    obtain ⟨shown, _⟩ := Reserve.debt_of_accrued run.accrue
      (show burned.lastUpdateTimestamp = accrued.lastUpdateTimestamp by rw [burn, rate.result])
      (show burned.variableBorrowIndex = accrued.variableBorrowIndex by rw [burn, rate.result])
    have index : burned.variableBorrowIndex =
        (pool.reserves asset).accruedVariableBorrowIndex env.timestamp
          (pool.reserves asset).variableDebtToken.base.totalSupply := by
      rw [← Reserve.updateState_variableBorrowIndex run.accrue, burn, rate.result]
    have stable : burned.stableDebtToken = (pool.reserves asset).stableDebtToken := by
      rw [burn, rate.result]
      exact debts.stable
    have floating : burned.variableDebtToken = (pool.reserves asset).variableDebtToken := by
      rw [burn, rate.result]
      exact debts.floating
    rw [result, Reserve.debt, Reserve.variableDebt, shown, index, stable, floating,
      Reserve.storedDebt]

def shortfall (account : UserAccountData) : Nat :=
  account.totalDebtInETH - divHalfUp
    (account.totalCollateralInETH * account.avgLiquidationThreshold) PERCENTAGE_FACTOR

-- The withdrawn asset was counted, or the accrual leaves none of the user's interest in it out, or
-- leaves out as much as the account was short of, but for what rounding the health factor gives.
def WithdrawalKeeps (env : Env) (pool : LendingPool) (asset user : Address)
    (account : UserAccountData) : Prop :=
  Counts pool asset user ∨ leftOutIn env pool asset user = 0 ∨
    shortfall account ≤ leftOutIn env pool asset user +
      (account.totalDebtInETH - leftOutIn env pool asset user) / (2 * WAD)

theorem debtIn_le (registered : Registered pool)
    (listed : (pool.reserves asset).lTokenAddress ≠ 0)
    (start : Account env pool user (pool.usersConfig user) account) :
    debtIn env pool asset user ≤ account.totalDebtInETH := by
  have inside := (registered.listed asset listed).1
  rw [start.debt]
  exact single_le_sum (fun _ _ => Nat.zero_le _) (mem_range.2 inside)

theorem leftOutIn_of_accrues (env : Env) (user : Address)
    (accrues : 0 < (pool.reserves asset).currentLiquidityRate ∧
      (pool.reserves asset).variableDebtToken.base.totalSupply ≠ 0) :
    leftOutIn env pool asset user = 0 ∧
      (pool.reserves asset).storedDebt env.timestamp user =
        (pool.reserves asset).debt env.timestamp user := by
  constructor
  · rw [leftOutIn, if_neg]
    rintro ⟨_, idle | none⟩
    · exact Nat.pos_iff_ne_zero.1 accrues.1 idle
    · exact accrues.2 none
  · rw [Reserve.storedDebt, Reserve.debt, Reserve.variableDebt,
      ReserveData.accruedVariableBorrowIndex_eq env.timestamp_lt accrues]

theorem debtIn_withdrawn (operates : Operates env pool after) (registered : Registered pool)
    (cleared : FlagOff asset user pool after)
    (reread : (after.reserves asset).debt env.timestamp user =
      (pool.reserves asset).storedDebt env.timestamp user) :
    debtIn env after asset user + leftOutIn env pool asset user = debtIn env pool asset user := by
  rw [cleared.debtIn_after operates registered, cleared.borrowing,
    debtIn_eq env user registered cleared.listed, debtInETH, reread, same_unit operates]
  by_cases borrowing : (pool.usersConfig user).borrows (pool.reserves asset).id = true
  · rw [if_pos borrowing, if_pos borrowing]
    by_cases accrues : 0 < (pool.reserves asset).currentLiquidityRate ∧
        (pool.reserves asset).variableDebtToken.base.totalSupply ≠ 0
    · obtain ⟨nothing, stored⟩ := leftOutIn_of_accrues env user accrues
      rw [nothing, stored, Nat.add_zero, debtInETH]
    · have idle : (pool.reserves asset).currentLiquidityRate = 0 ∨
          (pool.reserves asset).variableDebtToken.base.totalSupply = 0 := by
        omega
      have shown := Nat.div_le_div_right (c := (pool.reserves asset).unit)
        (Nat.mul_le_mul_left (env.priceOf asset)
          (Reserve.storedDebt_le (pool.reserves asset) env user))
      rw [leftOutIn, if_pos ⟨borrowing, idle⟩, debtInETH]
      rw [Reserve.storedDebt, ReserveData.accruedVariableBorrowIndex, if_neg accrues] at shown ⊢
      exact Nat.add_sub_of_le shown
  · rw [if_neg borrowing, if_neg borrowing, leftOutIn, if_neg fun both => borrowing both.1]

theorem withdraw_safe_iff {recipient : Address} {withdrawn : Nat} (registered : Registered pool)
    (computed : pool.withdraw env user asset maxUint256 recipient = .ok (after, withdrawn))
    (before : calculateUserAccountData env pool user (pool.usersConfig user) = .ok account)
    (later : calculateUserAccountData env after user (after.usersConfig user) = .ok account') :
    SafeOrSame pool asset user account account' ↔
      WithdrawalKeeps env pool asset user account := by
  have operates := withdraw_operates computed
  obtain ⟨touches, allowed⟩ := withdraw_touches registered computed
  obtain ⟨cleared, owned, reread⟩ := withdraw_whole registered computed
  have start := calculateUserAccountData_ok registered.count before
  have finish := calculateUserAccountData_ok (registered.evolves operates.evolves).count later
  have removed := cleared.removed operates registered start finish
  have relieved := touches.debt_le operates registered
  have debt := removed.debt
  by_cases counted : Counts pool asset user
  · have healthy := removed.healthy registered cleared.listed counted owned relieved allowed before
      start finish.healthFactor
    exact ⟨fun _ => .inl counted, fun _ => .inl healthy⟩
  · obtain ⟨collateral, threshold⟩ := removed.uncounted registered cleared.listed counted
    have part := debtIn_le registered cleared.listed start
    have stored := debtIn_withdrawn operates registered cleared reread
    have left : account'.totalDebtInETH =
        account.totalDebtInETH - leftOutIn env pool asset user := by omega
    rw [SafeOrSame, WithdrawalKeeps, healthFactor_eq finish.healthFactor, healthy_iff, collateral,
      threshold, left, shortfall]
    generalize (account.totalDebtInETH - leftOutIn env pool asset user) / (2 * WAD) = forgiven
    constructor
    · rintro (healthy | ⟨_, _, same, _⟩)
      · exact .inr (.inr (by omega))
      · exact .inr (.inl (by omega))
    · rintro (here | none | covered)
      · exact absurd here counted
      · exact .inr ⟨counted, rfl, by omega, rfl⟩
      · exact .inl (by omega)

end LendingPool

namespace World

variable {world : World} {user asset : Address} {account : UserAccountData}

/-- In every reachable state: whoever takes a whole position out of the collateral is healthy
afterwards, or the asset was not counted and the account is what it was. A withdrawal keeps this
exactly where its accrual leaves out no interest, or enough of it. -/
theorem Reachable.removal_safe (reached : world.Reachable)
    (before : calculateUserAccountData world.env world.pool user (world.pool.usersConfig user) =
      .ok account) :
    (∀ after account',
      world.pool.setUserUseReserveAsCollateral world.env user asset false = .ok after →
      calculateUserAccountData world.env after user (after.usersConfig user) = .ok account' →
      SafeOrSame world.pool asset user account account') ∧
    ∀ after withdrawn recipient account',
      world.pool.withdraw world.env user asset maxUint256 recipient = .ok (after, withdrawn) →
      calculateUserAccountData world.env after user (after.usersConfig user) = .ok account' →
      (SafeOrSame world.pool asset user account account' ↔
        WithdrawalKeeps world.env world.pool asset user account) :=
  ⟨fun _ _ computed later =>
      setUserUseReserveAsCollateral_safe reached.registered computed before later,
    fun _ _ _ _ computed later => withdraw_safe_iff reached.registered computed before later⟩

def spread : List Event :=
  Market.opening 10 Market.strategy ++ Market.opening 20 Market.strategy ++
    [.call 100 (.deposit 10 (1000 * WAD) 100), .call 101 (.deposit 10 (10 * WAD) 101),
      .call 101 (.deposit 20 (100 * WAD) 101), .call 101 (.borrow 10 WAD 2 101),
      .observe (Market.env 31536001 Market.year_in_time)]

-- Either way of taking the hundred out is allowed, and ten are left for a debt of about one.
theorem removal_safe_spread :
    ∃ (world : World) (account account' account'' : UserAccountData) (after left : LendingPool)
      (withdrawn : Nat), Runs.run step Market.start spread = .ok world ∧
      calculateUserAccountData world.env world.pool 101 (world.pool.usersConfig 101) =
        .ok account ∧
      Counts world.pool 20 101 ∧ WAD < account.totalDebtInETH ∧
      world.pool.setUserUseReserveAsCollateral world.env 101 20 false = .ok after ∧
      world.pool.withdraw world.env 101 20 maxUint256 101 = .ok (left, withdrawn) ∧
      calculateUserAccountData world.env after 101 (after.usersConfig 101) = .ok account' ∧
      calculateUserAccountData world.env left 101 (left.usersConfig 101) = .ok account'' ∧
      HEALTH_FACTOR_LIQUIDATION_THRESHOLD ≤ account'.healthFactor ∧
      HEALTH_FACTOR_LIQUIDATION_THRESHOLD ≤ account''.healthFactor := by
  have outcome : yields (Runs.run step Market.start spread) (fun world =>
      yields (calculateUserAccountData world.env world.pool 101 (world.pool.usersConfig 101))
        (fun account =>
      yields (world.pool.setUserUseReserveAsCollateral world.env 101 20 false) (fun after =>
      yields (world.pool.withdraw world.env 101 20 maxUint256 101) (fun withdrawal =>
      yields (calculateUserAccountData world.env after 101 (after.usersConfig 101)) (fun _ =>
      yields (calculateUserAccountData world.env withdrawal.1 101 (withdrawal.1.usersConfig 101))
        (fun _ => (world.pool.usersConfig 101).collateralises (world.pool.reserves 20).id = true ∧
          (world.pool.reserves 20).configuration.getLiquidationThreshold ≠ 0 ∧
          WAD < account.totalDebtInETH)))))) := by
    decide +kernel
  obtain ⟨world, ran, facts⟩ := yields_iff.1 outcome
  obtain ⟨account, before, facts⟩ := yields_iff.1 facts
  obtain ⟨after, cleared, facts⟩ := yields_iff.1 facts
  obtain ⟨⟨left, withdrawn⟩, taken, facts⟩ := yields_iff.1 facts
  obtain ⟨account', later, facts⟩ := yields_iff.1 facts
  obtain ⟨account'', later', facts⟩ := yields_iff.1 facts
  obtain ⟨flag, threshold, owing⟩ := of_decide_eq_true facts
  have counted : Counts world.pool 20 101 := ⟨flag, threshold⟩
  obtain ⟨clears, withdraws⟩ := Reachable.removal_safe (Market.reachable_of_run ran) before
  have healthy := (clears after account' cleared later).resolve_right fun same => same.1 counted
  have healthy' := ((withdraws left withdrawn 101 account'' taken later').2
    (.inl counted)).resolve_right fun same => same.1 counted
  exact ⟨world, account, account', account'', after, left, withdrawn, ran, before, counted, owing,
    cleared, taken, later, later', healthy, healthy'⟩

-- Whoever owes asset 10 keeps a deposit of it out of the collateral; a year on its price doubled,
-- and none of the interest is stored: the reserve keeps all of it for the treasury.
def doubled : List Event :=
  Market.opening 10 Market.strategy ++ Market.opening 20 Market.strategy ++
    [.admin 3 (.setReserveFactor 10 10000), .call 100 (.deposit 10 (1000 * WAD) 100),
      .call 101 (.deposit 20 (100 * WAD) 101), .call 101 (.borrow 10 (50 * WAD) 2 101),
      .call 101 (.deposit 10 WAD 101), .call 101 (.setUserUseReserveAsCollateral 10 false),
      .observe { Market.env 31536001 Market.year_in_time with
        getAssetPrice := fun asset => .ok (if asset = 10 then 2 * WAD else WAD) }]

-- The withdrawal forgets a quarter of a token of debt, and the account stays unhealthy.
theorem removal_forgets_doubled :
    ¬∀ (world : World) (user asset recipient : Address) (account account' : UserAccountData)
      (after : LendingPool) (withdrawn : Nat), world.Reachable →
      balanceDecreaseAllowed world.env world.pool asset user
        ((world.pool.reserves asset).lTokenBalance world.env.timestamp user)
        (world.pool.usersConfig user) = .ok true →
      calculateUserAccountData world.env world.pool user (world.pool.usersConfig user) =
        .ok account →
      world.pool.withdraw world.env user asset maxUint256 recipient = .ok (after, withdrawn) →
      calculateUserAccountData world.env after user (after.usersConfig user) = .ok account' →
      SafeOrSame world.pool asset user account account' := by
  intro every
  have outcome : yields (Runs.run step Market.start doubled) (fun world =>
      decide (balanceDecreaseAllowed world.env world.pool 10 101
        ((world.pool.reserves 10).lTokenBalance world.env.timestamp 101)
        (world.pool.usersConfig 101) = .ok true) &&
      yields (calculateUserAccountData world.env world.pool 101 (world.pool.usersConfig 101))
        (fun account =>
      yields (world.pool.withdraw world.env 101 10 maxUint256 101) (fun withdrawal =>
      yields (calculateUserAccountData world.env withdrawal.1 101 (withdrawal.1.usersConfig 101))
        (fun account' => account'.healthFactor < HEALTH_FACTOR_LIQUIDATION_THRESHOLD ∧
          account'.totalDebtInETH < account.totalDebtInETH)))) := by
    decide +kernel
  obtain ⟨world, ran, facts⟩ := yields_iff.1 outcome
  rw [Bool.and_eq_true, decide_eq_true_eq] at facts
  obtain ⟨allowed, facts⟩ := facts
  obtain ⟨account, before, facts⟩ := yields_iff.1 facts
  obtain ⟨⟨after, withdrawn⟩, taken, facts⟩ := yields_iff.1 facts
  obtain ⟨account', later, facts⟩ := yields_iff.1 facts
  obtain ⟨unhealthy, forgotten⟩ := of_decide_eq_true facts
  rcases every world 101 10 101 account account' after withdrawn (Market.reachable_of_run ran)
    allowed before taken later with healthy | ⟨_, _, same, _⟩ <;> omega

end World

end PalmyProtocol
